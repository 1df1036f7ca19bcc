import DiceLang.Pool
import Mathlib.Data.List.FinRange
import Mathlib.Data.List.Nodup
import Mathlib.Data.List.Perm.Basic
import Mathlib.Data.List.Sort

/-!
# The members that are kept

A pool is cut down by dropping an extreme member again and again, each time the first of its
value. The outcome can be said at once: rank all places of the pool by their values, and places
with equal values by their order, and take away the first ones of that ranking. What is kept stays
in its order. Keeping low members is the same with negated values.
-/

namespace DiceLang.Pool

set_option autoImplicit false

section Ranking

variable {size : Nat} (value : Fin size → Int)

/-- By value, and among equal values by place. -/
def Before (first second : Fin size) : Prop :=
  value first < value second ∨ value first = value second ∧ first < second

instance (first second : Fin size) : Decidable (Before value first second) :=
  inferInstanceAs (Decidable (_ ∨ _))

/-- All places, from the one with the least value to the one with the greatest. -/
def ranked : List (Fin size) :=
  (List.finRange size).mergeSort fun first second => decide ¬Before value second first

theorem ranked_perm : (ranked value).Perm (List.finRange size) :=
  List.mergeSort_perm _ _

theorem ranked_nodup : (ranked value).Nodup :=
  (ranked_perm value).nodup_iff.mpr (List.nodup_finRange size)

theorem ranked_sorted : (ranked value).Pairwise (Before value) := by
  have sorted : (ranked value).Pairwise
      fun first second => decide (¬Before value second first) = true := by
    apply List.pairwise_mergeSort
    · intro first second third
      simp only [decide_eq_true_eq]
      unfold Before
      omega
    · intro first second
      simp only [Bool.or_eq_true, decide_eq_true_eq]
      unfold Before
      omega
  -- Different places are never ranked alike, so the order is strict.
  refine (sorted.and (ranked_nodup value)).imp ?_
  intro first second ⟨notAfter, distinct⟩
  simp only [decide_eq_true_eq] at notAfter
  unfold Before at notAfter ⊢
  omega

end Ranking

section Dropping

variable {size : Nat} {value : Fin size → Int} {positions ranking : List (Fin size)}

/-- The first place among those with the least value comes before all others, so dropping the
value drops the place. -/
theorem erase_first_place (increasing : positions.Pairwise (· < ·)) {least : Fin size}
    (member : least ∈ positions)
    (before : ∀ other ∈ positions, other ≠ least → Before value least other) :
    (positions.map value).erase (value least) = (positions.erase least).map value := by
  induction positions with
  | nil => simp
  | cons first rest ih =>
      obtain ⟨first_lt, restIncreasing⟩ := List.pairwise_cons.mp increasing
      by_cases same : first = least
      · simp [same]
      · have later : least ∈ rest := (List.mem_cons.mp member).resolve_left (Ne.symm same)
        have other : value first ≠ value least := by
          have isBefore := before first List.mem_cons_self same
          have place := first_lt least later
          simp only [Before] at isBefore
          omega
        have among := ih restIncreasing later
          fun place placed => before place (List.mem_cons_of_mem _ placed)
        rw [List.map_cons, List.erase_cons_tail (by simpa using other), among,
          List.erase_cons_tail (by simpa using same), List.map_cons]

theorem min_of_first_place {least : Fin size} (member : least ∈ positions)
    (before : ∀ other ∈ positions, other ≠ least → Before value least other) :
    (positions.map value).min? = some (value least) := by
  rw [List.min?_eq_some_iff]
  refine ⟨List.mem_map_of_mem member, List.forall_mem_map.mpr ?_⟩
  intro other placed
  by_cases same : other = least
  · rw [same]
  · have isBefore := before other placed same
    simp only [Before] at isBefore
    omega

/-- The places that are left lose the first one of their ranking in each step. -/
theorem drop_least_eq (count : Nat) (increasing : positions.Pairwise (· < ·))
    (perm : ranking.Perm positions) (sorted : ranking.Pairwise (Before value)) :
    dropLeast count (positions.map value) =
      (positions.filter (· ∉ ranking.take count)).map value := by
  induction count generalizing positions ranking with
  | zero => simp [dropLeast]
  | succ count ih =>
      cases ranking with
      | nil =>
          rw [← perm.nil_eq]
          simp [dropLeast]
      | cons least later =>
          obtain ⟨member, onward⟩ := List.cons_perm_iff_perm_erase.mp perm
          obtain ⟨leastBefore, laterSorted⟩ := List.pairwise_cons.mp sorted
          have before : ∀ other ∈ positions, other ≠ least → Before value least other := by
            intro other placed distinct
            have listed := perm.mem_iff.mpr placed
            exact leastBefore other ((List.mem_cons.mp listed).resolve_left distinct)
          have stillIncreasing : (positions.erase least).Pairwise (· < ·) :=
            increasing.sublist List.erase_sublist
          have distinct : positions.Nodup := increasing.imp fun lt => Fin.ne_of_lt lt
          rw [dropLeast, min_of_first_place member before]
          dsimp only
          rw [erase_first_place increasing member before, ih stillIncreasing onward laterSorted,
            distinct.erase_eq_filter, List.filter_filter]
          congr 1
          apply List.filter_congr
          intro place _
          rw [Bool.eq_iff_iff]
          simp [and_comm]

theorem drop_greatest_eq_neg (count : Nat) (pool : Pool) :
    dropGreatest count pool = (dropLeast count (pool.map (-·))).map (-·) := by
  induction count generalizing pool with
  | zero =>
      simp only [dropGreatest, dropLeast, List.map_map, Function.comp_def, Int.neg_neg,
        List.map_id']
  | succ count ih =>
      cases found : pool.max? with
      | none =>
          rw [List.max?_eq_none_iff] at found
          simp [found, dropGreatest, dropLeast]
      | some greatest =>
          obtain ⟨member, above⟩ := List.max?_eq_some_iff.mp found
          have least : (pool.map (-·)).min? = some (-greatest) := by
            rw [List.min?_eq_some_iff]
            refine ⟨List.mem_map_of_mem member, List.forall_mem_map.mpr ?_⟩
            exact fun x among => Int.neg_le_neg (above x among)
          rw [dropGreatest, dropLeast, found, least]
          dsimp only
          rw [ih, List.map_erase fun _ _ => Int.neg_inj.mp]

theorem drop_greatest_eq (count : Nat) (increasing : positions.Pairwise (· < ·))
    (perm : ranking.Perm positions)
    (sorted : ranking.Pairwise (Before fun place => -value place)) :
    dropGreatest count (positions.map value) =
      (positions.filter (· ∉ ranking.take count)).map value := by
  rw [drop_greatest_eq_neg, List.map_map]
  change (dropLeast count (positions.map fun place => -value place)).map (-·) = _
  rw [drop_least_eq count increasing perm sorted, List.map_map]
  simp [Function.comp_def]

end Dropping

/-- The pool without the members at these places. -/
def without (pool : Pool) (deleted : List (Fin pool.length)) : Pool :=
  ((List.finRange pool.length).filter (· ∉ deleted)).map pool.get

/-- What is kept of a pool if places are deleted until `keep` are left, in the order of their
values. -/
structure Keeps (pool : Pool) (value : Fin pool.length → Int) (keep : Nat)
    (deleted : List (Fin pool.length)) (kept : Pool) : Prop where
  /-- The places are deleted that come first if all are ranked. -/
  first : deleted = (ranked value).take (pool.length - keep)
  ranking : (ranked value).Perm (List.finRange pool.length) ∧
    (ranked value).Pairwise (Before value)
  others : kept = pool.without deleted
  number : deleted.Nodup ∧ deleted.length = pool.length - keep
  length : kept.length = min keep pool.length
  subsequence : kept.Sublist pool
  boundary : ∀ gone ∈ deleted, ∀ stays ∉ deleted,
    value gone ≤ value stays ∧ (value gone = value stays → gone < stays)

section Deleting

variable {pool : Pool}

theorem without_sublist (deleted : List (Fin pool.length)) :
    (pool.without deleted).Sublist pool := by
  have places : ((List.finRange pool.length).filter (· ∉ deleted)).Sublist
      (List.finRange pool.length) := List.filter_sublist
  have members := places.map pool.get
  rwa [List.map_get_finRange] at members

theorem without_length {deleted : List (Fin pool.length)} (distinct : deleted.Nodup) :
    (pool.without deleted).length + deleted.length = pool.length := by
  have gone : ((List.finRange pool.length).filter (· ∈ deleted)).Perm deleted := by
    apply (List.perm_ext_iff_of_nodup ((List.nodup_finRange _).filter _) distinct).mpr
    simp
  have split := List.length_eq_length_filter_add (l := List.finRange pool.length) (· ∈ deleted)
  simp only [List.length_finRange, gone.length_eq] at split
  simp only [without, List.length_map, decide_not]
  omega

theorem keeps_ranked (value : Fin pool.length → Int) (keep : Nat) :
    Keeps pool value keep ((ranked value).take (pool.length - keep))
      (pool.without ((ranked value).take (pool.length - keep))) := by
  have sorted := ranked_sorted value
  have all := (ranked_perm value).length_eq
  rw [List.length_finRange] at all
  have distinct : ((ranked value).take (pool.length - keep)).Nodup :=
    (ranked_nodup value).sublist (List.take_sublist _ _)
  have number : ((ranked value).take (pool.length - keep)).length = pool.length - keep := by
    rw [List.length_take, all]
    omega
  constructor
  case first => rfl
  case ranking => exact ⟨ranked_perm value, sorted⟩
  case others => rfl
  case number => exact ⟨distinct, number⟩
  case length =>
    have length := without_length distinct
    omega
  case subsequence => exact without_sublist _
  case boundary =>
    intro gone first stays notFirst
    have placed : stays ∈ ranked value := (ranked_perm value).mem_iff.mpr (List.mem_finRange stays)
    rw [← List.take_append_drop (pool.length - keep) (ranked value)] at sorted placed
    have later := (List.mem_append.mp placed).resolve_left notFirst
    have isBefore := (List.pairwise_append.mp sorted).2.2 gone first stays later
    unfold Before at isBefore
    constructor
    · omega
    · intro same
      omega

end Deleting

/-- Keeping high members deletes the places that come first by value and then by place, as many as
are too many, and leaves the others in their order; keeping low members does the same with negated
values. Only a negative number of members cannot be kept. -/
theorem members_kept (pool : Pool) (keep : Int) :
    (0 ≤ keep →
      (∃ deleted kept, pool.keepHigh keep = .ok kept ∧
        Keeps pool pool.get keep.toNat deleted kept) ∧
      ∃ deleted kept, pool.keepLow keep = .ok kept ∧
        Keeps pool (fun place => -pool.get place) keep.toNat deleted kept) ∧
    (keep < 0 → pool.keepHigh keep = .error (.badArgument (.keepCount keep)) ∧
      pool.keepLow keep = .error (.badArgument (.keepCount keep))) := by
  have members := List.map_get_finRange pool
  have increasing := List.pairwise_lt_finRange pool.length
  constructor
  · intro nonneg
    have notNegative := Int.not_lt.mpr nonneg
    constructor
    · refine ⟨_, _, ?_, keeps_ranked pool.get keep.toNat⟩
      have dropped := drop_least_eq (pool.length - keep.toNat) increasing
        (ranked_perm pool.get) (ranked_sorted pool.get)
      rw [members] at dropped
      rw [keepHigh, if_neg notNegative, dropped, without]
    · refine ⟨_, _, ?_, keeps_ranked (fun place => -pool.get place) keep.toNat⟩
      have dropped := drop_greatest_eq (pool.length - keep.toNat) increasing
        (ranked_perm _) (ranked_sorted fun place => -pool.get place)
      rw [members] at dropped
      rw [keepLow, if_neg notNegative, dropped, without]
  · intro negative
    exact ⟨if_pos negative, if_pos negative⟩

/-- Of equal members the first ones are dropped, whether they are low or high. -/
theorem members_kept_ties :
    let low : Pool := [2, 5, 2, 7, 2]
    let high : Pool := [5, 2, 5]
    (∃ deleted, Keeps low low.get 3 deleted [5, 7, 2]) ∧
      (∃ deleted, Keeps high (fun place => -high.get place) 2 deleted [2, 5]) ∧
      low.keepHigh (-1) = .error (.badArgument (.keepCount (-1))) := by
  intro low high
  obtain ⟨⟨deleted, kept, given, keeps⟩, _⟩ := (members_kept low 3).1 (by decide)
  obtain ⟨_, others, rest, alsoGiven, alsoKeeps⟩ := (members_kept high 2).1 (by decide)
  have threeKept : low.keepHigh 3 = .ok [5, 7, 2] := by decide
  have twoKept : high.keepLow 2 = .ok [2, 5] := by decide
  rw [threeKept] at given
  rw [twoKept] at alsoGiven
  cases given
  cases alsoGiven
  exact ⟨⟨deleted, keeps⟩, ⟨others, alsoKeeps⟩, ((members_kept low (-1)).2 (by decide)).1⟩

end DiceLang.Pool
