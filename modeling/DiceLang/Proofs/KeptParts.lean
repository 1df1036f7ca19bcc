import DiceLang.Proofs.KeptMembers

/-!
# The two parts of a pool

The high members that are kept of a pool and the low ones that are kept of the same pool are
chosen separately, and among equal members both choices drop the first ones. So they need not be
made at complementary places, but the values come out even: if the two numbers add up to the size
of the pool, the parts hold each member as often as the pool does. What makes this visible is the
pool in order: dropping the least members leaves the values behind them.

Since members are dropped one at a time, keeping some members and then fewer of those is the same
as keeping the fewer ones at once.
-/

namespace DiceLang.Pool

set_option autoImplicit false

section Values

variable {pool ordered : Pool}

theorem drop_least_perm (perm : ordered.Perm pool) (sorted : ordered.Pairwise (· ≤ ·))
    (count : Nat) : (dropLeast count pool).Perm (ordered.drop count) := by
  induction count generalizing pool ordered with
  | zero => exact perm.symm
  | succ count ih =>
      cases ordered with
      | nil =>
          rw [← perm.nil_eq]
          exact .refl []
      | cons least later =>
          obtain ⟨member, onward⟩ := List.cons_perm_iff_perm_erase.mp perm
          obtain ⟨below, laterSorted⟩ := List.pairwise_cons.mp sorted
          have found : pool.min? = some least := by
            rw [List.min?_eq_some_iff]
            refine ⟨member, fun other among => ?_⟩
            rcases List.mem_cons.mp (perm.mem_iff.mpr among) with same | behind
            · exact Int.le_of_eq same.symm
            · exact below other behind
          rw [dropLeast, found]
          exact ih onward laterSorted

theorem drop_greatest_perm (perm : ordered.Perm pool) (sorted : ordered.Pairwise (· ≥ ·))
    (count : Nat) : (dropGreatest count pool).Perm (ordered.drop count) := by
  have increasing : (ordered.map (-·)).Pairwise (· ≤ ·) :=
    List.pairwise_map.mpr (sorted.imp Int.neg_le_neg)
  have dropped := (drop_least_perm (perm.map (-·)) increasing count).map (-·)
  rw [← List.map_drop, List.map_map] at dropped
  simpa [drop_greatest_eq_neg, Function.comp_def] using dropped

theorem drop_least_length (count : Nat) (pool : Pool) :
    (dropLeast count pool).length = pool.length - count := by
  have perm := List.perm_insertionSort (· ≤ ·) pool
  have dropped := drop_least_perm perm (List.pairwise_insertionSort _ pool) count
  rw [dropped.length_eq, List.length_drop, perm.length_eq]

theorem drop_greatest_length (count : Nat) (pool : Pool) :
    (dropGreatest count pool).length = pool.length - count := by
  rw [drop_greatest_eq_neg, List.length_map, drop_least_length, List.length_map]

/-- If as many of the greatest members are dropped as are left without the least ones, the two
results are the two ends of the pool in order. -/
theorem drop_ends_perm (kept : Nat) :
    (dropLeast (pool.length - kept) pool ++ dropGreatest kept pool).Perm pool := by
  let ordered := pool.insertionSort (· ≤ ·)
  have perm : ordered.Perm pool := List.perm_insertionSort _ pool
  have sorted : ordered.Pairwise (· ≤ ·) := List.pairwise_insertionSort _ pool
  have high : (dropLeast (pool.length - kept) pool).Perm (ordered.drop (pool.length - kept)) :=
    drop_least_perm perm sorted _
  have low : (dropGreatest kept pool).Perm (ordered.take (pool.length - kept)) := by
    have dropped := drop_greatest_perm ((List.reverse_perm ordered).trans perm)
      (List.pairwise_reverse.mpr sorted) kept
    rw [List.drop_reverse, perm.length_eq] at dropped
    exact dropped.trans (List.reverse_perm _)
  have ends := (high.append low).trans List.perm_append_comm
  rw [List.take_append_drop] at ends
  exact ends.trans perm

end Values

section Repeated

theorem drop_least_again (first second : Nat) (pool : Pool) :
    dropLeast second (dropLeast first pool) = dropLeast (first + second) pool := by
  induction first generalizing pool with
  | zero => rw [dropLeast, Nat.zero_add]
  | succ first ih =>
      rw [Nat.succ_add, dropLeast, dropLeast]
      cases found : pool.min? with
      | none =>
          -- An empty pool stays empty.
          rw [List.min?_eq_none_iff] at found
          cases second with
          | zero => rfl
          | succ second => simp [found, dropLeast]
      | some least => exact ih (pool.erase least)

theorem drop_greatest_again (first second : Nat) (pool : Pool) :
    dropGreatest second (dropGreatest first pool) = dropGreatest (first + second) pool := by
  have twice : ((dropLeast first (pool.map (-·))).map (-·)).map (-·) =
      dropLeast first (pool.map (-·)) := by
    simp only [List.map_map, Function.comp_def, Int.neg_neg, List.map_id']
  rw [drop_greatest_eq_neg second, drop_greatest_eq_neg first, twice, drop_least_again,
    drop_greatest_eq_neg]

/-- Any way of dropping members one at a time can be interrupted. -/
theorem drop_to_fewer {drop : Nat → Pool → Pool}
    (length : ∀ count pool, (drop count pool).length = pool.length - count)
    (again : ∀ first second pool, drop second (drop first pool) = drop (first + second) pool)
    (pool : Pool) (first second : Nat) :
    let kept := drop (pool.length - first) pool
    drop (kept.length - second) kept = drop (pool.length - min second first) pool := by
  intro kept
  have dropped : pool.length - first + (kept.length - second) =
      pool.length - min second first := by
    rw [length]
    omega
  rw [again, dropped]

end Repeated

theorem keep_high_of_nonneg {keep : Int} (nonneg : 0 ≤ keep) (pool : Pool) :
    pool.keepHigh keep = .ok (dropLeast (pool.length - keep.toNat) pool) :=
  if_neg (Int.not_lt.mpr nonneg)

theorem keep_low_of_nonneg {keep : Int} (nonneg : 0 ≤ keep) (pool : Pool) :
    pool.keepLow keep = .ok (dropGreatest (pool.length - keep.toNat) pool) :=
  if_neg (Int.not_lt.mpr nonneg)

/-- High and low members that are together as many as the pool has make up the pool. Members that
are kept of kept members are those that would have been kept at once. -/
theorem parts_and_repeated_keeps (pool : Pool) :
    (∀ keep : Int, 0 ≤ keep → keep ≤ pool.length →
      ∃ high low, pool.keepHigh keep = .ok high ∧ pool.keepLow (pool.length - keep) = .ok low ∧
        (high ++ low).Perm pool) ∧
    ∀ first second : Int, 0 ≤ first → 0 ≤ second →
      (∃ kept fewer, pool.keepHigh first = .ok kept ∧ kept.keepHigh second = .ok fewer ∧
        pool.keepHigh (min second first) = .ok fewer) ∧
      ∃ kept fewer, pool.keepLow first = .ok kept ∧ kept.keepLow second = .ok fewer ∧
        pool.keepLow (min second first) = .ok fewer := by
  constructor
  · intro keep nonneg within
    have others : pool.length - (pool.length - keep : Int).toNat = keep.toNat := by omega
    refine ⟨_, _, keep_high_of_nonneg nonneg pool,
      keep_low_of_nonneg (Int.sub_nonneg_of_le within) pool, ?_⟩
    rw [others]
    exact drop_ends_perm keep.toNat
  · intro first second firstNonneg secondNonneg
    have fewerNonneg : 0 ≤ min second first := Int.le_min.mpr ⟨secondNonneg, firstNonneg⟩
    have fewer : (min second first).toNat = min second.toNat first.toNat := by omega
    constructor
    · refine ⟨_, _, keep_high_of_nonneg firstNonneg pool, keep_high_of_nonneg secondNonneg _, ?_⟩
      rw [keep_high_of_nonneg fewerNonneg, fewer,
        drop_to_fewer drop_least_length drop_least_again]
    · refine ⟨_, _, keep_low_of_nonneg firstNonneg pool, keep_low_of_nonneg secondNonneg _, ?_⟩
      rw [keep_low_of_nonneg fewerNonneg, fewer,
        drop_to_fewer drop_greatest_length drop_greatest_again]

/-- Three equal members between two others: the two high members and the three low ones are not
taken from complementary places, and three low members and then one are the lowest one. -/
theorem parts_and_repeated_keeps_ties :
    let pool : Pool := [4, 1, 4, 7, 4]
    (0 ≤ (2 : Int) ∧ (2 : Int) ≤ pool.length ∧ pool.keepHigh 2 = .ok [7, 4] ∧
      pool.keepLow 3 = .ok [1, 4, 4] ∧ (([7, 4] : Pool) ++ [1, 4, 4]).Perm pool) ∧
    ∃ fewer, Pool.keepLow [1, 4, 4] 1 = .ok fewer ∧ pool.keepLow 1 = .ok fewer := by
  intro pool
  obtain ⟨parts, repeated⟩ := parts_and_repeated_keeps pool
  obtain ⟨high, low, highKept, lowKept, perm⟩ := parts 2 (by decide) (by decide)
  obtain ⟨_, kept, fewer, again, keptAgain, atOnce⟩ := repeated 3 1 (by decide) (by decide)
  have two : pool.keepHigh 2 = .ok [7, 4] := by decide
  have three : pool.keepLow 3 = .ok [1, 4, 4] := by decide
  have rest : pool.keepLow (pool.length - 2) = .ok [1, 4, 4] := three
  rw [two] at highKept
  rw [rest] at lowKept
  rw [three] at again
  cases highKept
  cases lowKept
  cases again
  exact ⟨⟨by decide, by decide, two, three, perm⟩, fewer, keptAgain, atOnce⟩

end DiceLang.Pool
