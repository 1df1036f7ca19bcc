/-!
# Dice maps

A dice map names some outcomes of a roll: it gives a qualifier to each outcome it knows. Its
entries are kept in increasing order of outcome, so a map has one representation. A table of dice
maps holds maps under distinct names; registering a name again replaces its map.
-/

namespace DiceLang

set_option autoImplicit false

structure DiceMap where
  entries : List (Int × String)
  increasing : entries.Pairwise fun earlier later => earlier.1 < later.1
  deriving DecidableEq

namespace DiceMap

def empty : DiceMap := ⟨[], .nil⟩

/-- Puts an entry in its place, in front of larger outcomes and instead of an equal one. -/
def insertEntry (outcome : Int) (qualifier : String) : List (Int × String) → List (Int × String)
  | [] => [(outcome, qualifier)]
  | entry :: rest =>
      if outcome < entry.1 then (outcome, qualifier) :: entry :: rest
      else if outcome = entry.1 then (outcome, qualifier) :: rest
      else entry :: insertEntry outcome qualifier rest

theorem outcome_of_mem_insertEntry {outcome : Int} {qualifier : String}
    {entries : List (Int × String)} {entry : Int × String}
    (member : entry ∈ insertEntry outcome qualifier entries) :
    entry.1 = outcome ∨ entry ∈ entries := by
  induction entries with
  | nil => simp_all [insertEntry]
  | cons first rest ih =>
      rw [insertEntry] at member
      split at member
      · rcases List.mem_cons.mp member with rfl | old
        · exact .inl rfl
        · exact .inr old
      · split at member
        · rcases List.mem_cons.mp member with rfl | old
          · exact .inl rfl
          · exact .inr (List.mem_cons_of_mem _ old)
        · rcases List.mem_cons.mp member with rfl | old
          · exact .inr List.mem_cons_self
          · exact (ih old).imp_right (List.mem_cons_of_mem _)

theorem insertEntry_increasing (outcome : Int) (qualifier : String)
    {entries : List (Int × String)}
    (increasing : entries.Pairwise fun earlier later => earlier.1 < later.1) :
    (insertEntry outcome qualifier entries).Pairwise
      fun earlier later => earlier.1 < later.1 := by
  induction entries with
  | nil => simp [insertEntry]
  | cons first rest ih =>
      have ⟨firstLeast, restIncreasing⟩ := List.pairwise_cons.mp increasing
      rw [insertEntry]
      split
      · rename_i before
        refine List.pairwise_cons.mpr ⟨fun entry member => ?_, increasing⟩
        rcases List.mem_cons.mp member with rfl | later
        · exact before
        · exact Int.lt_trans before (firstLeast entry later)
      · split
        · rename_i same
          refine List.pairwise_cons.mpr ⟨fun entry member => ?_, restIncreasing⟩
          exact same ▸ firstLeast entry member
        · refine List.pairwise_cons.mpr ⟨fun entry member => ?_, ih restIncreasing⟩
          rcases outcome_of_mem_insertEntry member with own | old
          · omega
          · exact firstLeast entry old

theorem lookup_insertEntry (outcome other : Int) (qualifier : String)
    (entries : List (Int × String)) :
    (insertEntry outcome qualifier entries).lookup other =
      if other = outcome then some qualifier else entries.lookup other := by
  induction entries with
  | nil => grind [insertEntry]
  | cons first rest ih =>
      obtain ⟨key, text⟩ := first
      rw [insertEntry]
      split
      · grind
      · split <;> grind

def insert (map : DiceMap) (outcome : Int) (qualifier : String) : DiceMap :=
  ⟨insertEntry outcome qualifier map.entries,
    insertEntry_increasing outcome qualifier map.increasing⟩

/-- Of two pairs with the same outcome the later one counts. -/
def ofList (pairs : List (Int × String)) : DiceMap :=
  pairs.foldl (fun map pair => map.insert pair.1 pair.2) empty

def get? (map : DiceMap) (outcome : Int) : Option String :=
  map.entries.lookup outcome

theorem get?_insert (map : DiceMap) (outcome other : Int) (qualifier : String) :
    (map.insert outcome qualifier).get? other =
      if other = outcome then some qualifier else map.get? other :=
  lookup_insertEntry outcome other qualifier map.entries

def size (map : DiceMap) : Nat :=
  map.entries.length

end DiceMap

structure DiceMaps where
  entries : List (String × DiceMap)
  distinct : (entries.map Prod.fst).Nodup
  deriving DecidableEq

namespace DiceMaps

def empty : DiceMaps := ⟨[], .nil⟩

def get? (maps : DiceMaps) (name : String) : Option DiceMap :=
  maps.entries.lookup name

theorem distinct_after_replacement {entries : List (String × DiceMap)}
    (distinct : (entries.map Prod.fst).Nodup) (name : String) (map : DiceMap) :
    (((name, map) :: entries.filter fun entry => entry.1 ≠ name).map Prod.fst).Nodup := by
  refine List.nodup_cons.mpr ⟨by simp, ?_⟩
  exact distinct.sublist (List.filter_sublist.map Prod.fst)

theorem lookup_after_replacement (entries : List (String × DiceMap)) (name other : String)
    (map : DiceMap) :
    ((name, map) :: entries.filter fun entry => entry.1 ≠ name).lookup other =
      if other = name then some map else entries.lookup other := by
  induction entries with
  | nil => grind
  | cons first rest ih =>
      obtain ⟨key, held⟩ := first
      by_cases same : key = name <;> grind

def register (maps : DiceMaps) (name : String) (map : DiceMap) : DiceMaps :=
  ⟨(name, map) :: maps.entries.filter fun entry => entry.1 ≠ name,
    distinct_after_replacement maps.distinct name map⟩

theorem get?_register (maps : DiceMaps) (name other : String) (map : DiceMap) :
    (maps.register name map).get? other =
      if other = name then some map else maps.get? other :=
  lookup_after_replacement maps.entries name other map

def size (maps : DiceMaps) : Nat :=
  maps.entries.length

def isEmpty (maps : DiceMaps) : Bool :=
  maps.entries.isEmpty

end DiceMaps

end DiceLang
