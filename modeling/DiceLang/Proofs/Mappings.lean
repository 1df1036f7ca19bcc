import DiceLang.Proofs.Runs

/-!
# Mapping outcomes to qualifiers

A number is mapped to its qualifier, and a pool member by member. The first member without an
entry decides how the mapping of a pool fails. A map is consulted for one outcome at a time, so it
is missed only where there is an outcome: a pool without members is mapped under any name.
-/

namespace DiceLang

set_option autoImplicit false

namespace DiceMaps

variable {maps : DiceMaps} {name : String} {map : DiceMap}

theorem qualify_unregistered (unregistered : maps.get? name = none) (outcome : Int) :
    maps.qualify name outcome = .error (.unknownMap name) := by
  rw [qualify, unregistered]

theorem qualify_registered (registered : maps.get? name = some map) (outcome : Int) :
    maps.qualify name outcome =
      match map.get? outcome with
      | some text => .ok text
      | none => .error (.unknownOutcome name outcome) := by
  rw [qualify, registered]
  dsimp only
  cases map.get? outcome with
  | some text => rfl
  | none => rfl

theorem qualify_members_unregistered (unregistered : maps.get? name = none) (members : Pool) :
    members.mapM (maps.qualify name) =
      if members = [] then .ok [] else .error (.unknownMap name) := by
  cases members with
  | nil => rfl
  | cons first rest =>
      rw [List.mapM_cons, qualify_unregistered unregistered, if_neg (List.cons_ne_nil _ _)]
      rfl

theorem qualify_members_registered (registered : maps.get? name = some map) (members : Pool) :
    match members.find? fun outcome => (map.get? outcome).isNone with
    | some missing =>
        members.mapM (maps.qualify name) = .error (.unknownOutcome name missing)
    | none => ∃ texts, texts.map some = members.map map.get? ∧
        members.mapM (maps.qualify name) = .ok texts := by
  induction members with
  | nil => exact ⟨[], rfl, rfl⟩
  | cons first rest ih =>
      rw [List.mapM_cons, qualify_registered registered, List.find?_cons]
      cases entry : map.get? first with
      | none => rfl
      | some text =>
          dsimp only [Option.isNone_some]
          cases found : rest.find? fun outcome => (map.get? outcome).isNone with
          | some missing =>
              rw [found] at ih
              dsimp only at ih ⊢
              rw [ih]
              rfl
          | none =>
              rw [found] at ih
              obtain ⟨texts, entries, mapped⟩ := ih
              refine ⟨text :: texts, ?_, ?_⟩
              · rw [List.map_cons, List.map_cons, entries, entry]
              · rw [mapped]
                rfl

end DiceMaps

theorem Plan.run_ofExcept {σ ε α : Type} [Roller σ] (result : Except ε α) (context : Context σ) :
    (Plan.ofExcept result).run context = ⟨result, context, []⟩ := by
  cases result with
  | ok a => rfl
  | error e => rfl

namespace BinaryOperator

variable {σ : Type} [Roller σ] (context : Context σ) (name : String)

theorem run_mapping (operand : Value) :
    (mapping.apply context.maps operand (.qualifier name)).run context =
      ⟨context.maps.apply mapping.symbol operand name, context, []⟩ :=
  Plan.run_ofExcept _ context

theorem mapping_number (outcome : Int) :
    ((mapping.apply context.maps (.number outcome) (.qualifier name)).run context).result =
      (context.maps.qualify name outcome).map .qualifier := by
  rw [run_mapping]
  rfl

theorem mapping_pool (members : Pool) :
    ((mapping.apply context.maps (.pool members) (.qualifier name)).run context).result =
      (members.mapM (context.maps.qualify name)).map .qualifiers := by
  rw [run_mapping]
  rfl

/-- Through a registered name a number is mapped to its qualifier and a pool to the tuple of its
members' qualifiers, and the first outcome without an entry is reported. A name that is not
registered is reported for every number and for every pool that has a member. Nothing changes in
the context. -/
theorem mapping_member_by_member :
    let mapped (operand : Value) : Outcome σ RollError Value :=
      (mapping.apply context.maps operand (.qualifier name)).run context
    (∀ operand, (mapped operand).context = context) ∧
    (context.maps.get? name = none →
      (∀ outcome, (mapped (.number outcome)).result = .error (.unknownMap name)) ∧
      ∀ members, (mapped (.pool members)).result =
        if members = [] then .ok (.qualifiers []) else .error (.unknownMap name)) ∧
    ∀ map, context.maps.get? name = some map →
      (∀ outcome, (mapped (.number outcome)).result =
        match map.get? outcome with
        | some text => .ok (.qualifier text)
        | none => .error (.unknownOutcome name outcome)) ∧
      ∀ members : Pool,
        match members.find? fun outcome => (map.get? outcome).isNone with
        | some missing =>
            (mapped (.pool members)).result = .error (.unknownOutcome name missing)
        | none => ∃ texts, texts.map some = members.map map.get? ∧
            (mapped (.pool members)).result = .ok (.qualifiers texts) := by
  intro mapped
  refine ⟨fun operand => congrArg Outcome.context (run_mapping context name operand),
    fun unregistered => ⟨fun outcome => ?_, fun members => ?_⟩,
    fun map registered => ⟨fun outcome => ?_, fun members => ?_⟩⟩
  · rw [mapping_number, DiceMaps.qualify_unregistered unregistered]
    rfl
  · rw [mapping_pool, DiceMaps.qualify_members_unregistered unregistered]
    split
    · rfl
    · rfl
  · rw [mapping_number, DiceMaps.qualify_registered registered]
    cases map.get? outcome with
    | some text => rfl
    | none => rfl
  · have qualified := DiceMaps.qualify_members_registered registered members
    have result : (mapped (.pool members)).result = _ := mapping_pool context name members
    cases found : members.find? fun outcome => (map.get? outcome).isNone with
    | some missing =>
        rw [found] at qualified
        dsimp only at qualified ⊢
        rw [result, qualified]
        rfl
    | none =>
        rw [found] at qualified
        obtain ⟨texts, entries, all⟩ := qualified
        refine ⟨texts, entries, ?_⟩
        rw [result, all]
        rfl

/-- A pool whose third member is the first without an entry, a pool without such a member, and a
number under a name that nobody registered. -/
theorem mapping_member_by_member_third_missing :
    let map : DiceMap := .ofList [(1, "none"), (2, "success")]
    let context : Context Replay := ⟨.ofArray #[], ⟨none, 0⟩, DiceMaps.empty.register "m" map⟩
    let mapped (operand : Value) (name : String) : Outcome Replay RollError Value :=
      (mapping.apply context.maps operand (.qualifier name)).run context
    (context.maps.get? "m" = some map ∧
      (mapped (.pool [2, 1, 7, 2, 9]) "m").result = .error (.unknownOutcome "m" 7) ∧
      ∃ texts, texts.map some = [some "success", some "none", some "success"] ∧
        (mapped (.pool [2, 1, 2]) "m").result = .ok (.qualifiers texts)) ∧
    context.maps.get? "n" = none ∧
      (mapped (.number 2) "n").result = .error (.unknownMap "n") := by
  intro map context mapped
  have registered : context.maps.get? "m" = some map := by rfl
  have unregistered : context.maps.get? "n" = none := by rfl
  obtain ⟨_, _, known⟩ := mapping_member_by_member context "m"
  obtain ⟨_, unknown, _⟩ := mapping_member_by_member context "n"
  obtain ⟨_, onPool⟩ := known map registered
  exact ⟨⟨registered, onPool [2, 1, 7, 2, 9], onPool [2, 1, 2]⟩, unregistered,
    (unknown unregistered).1 2⟩

/-- A pool without members is mapped under a name that nobody registered. -/
theorem empty_pool_mapped_unregistered :
    let context : Context Replay := .new (.ofArray #[]) none
    context.maps.get? "x" = none ∧
      ((mapping.apply context.maps (.pool []) (.qualifier "x")).run context).result =
        .ok (.qualifiers []) :=
  ⟨rfl, rfl⟩

end BinaryOperator

end DiceLang
