import DiceLang.Pool
import Mathlib.Algebra.BigOperators.Group.List.Basic
import Mathlib.Algebra.Order.Ring.Int
import Mathlib.Data.List.Infix

/-!
# The order in which a pool is summed

Members are added from the front, and each partial sum has to fit. A sum that comes out is therefore
the true one, but a true sum that fits need not come out: on the way to it, the positive members may
lead above the range before the negative ones lead back.

How far the partial sums can go is known without the order. They stay between the sum of the
negative members and the sum of the positive ones, and either of the two is reached by the order
that takes those members first. If both fit, the order makes no difference. If one of them does not,
then that order fails, while another one succeeds whenever the true sum fits: after a sum on one
side of zero it takes a member from the other side, for as long as there is one.
-/

namespace DiceLang.Pool

set_option autoImplicit false

open Integer (Fits lowest highest checked)

variable {pool : Pool} {start : Int}

section PartialSums

/-- Added to `start` one after the other, the members never lead out of the range. -/
def SumsFit (start : Int) (pool : Pool) : Prop :=
  ∀ front ∈ pool.inits, Fits (start + List.sum front)

instance (start : Int) (pool : Pool) : Decidable (SumsFit start pool) :=
  inferInstanceAs (Decidable (∀ front ∈ pool.inits, Fits (start + List.sum front)))

theorem sums_fit_nil : SumsFit start [] ↔ Fits start := by
  simp [SumsFit]

theorem sums_fit_cons {x : Int} {rest : Pool} :
    SumsFit start (x :: rest) ↔ Fits start ∧ SumsFit (start + x) rest := by
  simp [SumsFit, Int.add_assoc]

theorem SumsFit.first (fit : SumsFit start pool) : Fits start := by
  cases pool with
  | nil => exact sums_fit_nil.mp fit
  | cons x rest => exact (sums_fit_cons.mp fit).1

theorem SumsFit.last (fit : SumsFit start pool) : Fits (start + List.sum pool) :=
  fit pool ((List.mem_inits pool pool).mpr (List.prefix_refl pool))

theorem sum_from_eq (fits : Fits start) :
    pool.foldlM (fun total x => checked (total + x)) start =
      if SumsFit start pool then .ok (start + List.sum pool) else .error .overflow := by
  induction pool generalizing start with
  | nil =>
      rw [if_pos (sums_fit_nil.mpr fits), List.sum_nil, Int.add_zero]
      rfl
  | cons x rest ih =>
      have later : SumsFit start (x :: rest) ↔ SumsFit (start + x) rest := by
        rw [sums_fit_cons, and_iff_right fits]
      simp only [later]
      rw [List.foldlM_cons, List.sum_cons, ← Int.add_assoc]
      by_cases inside : Fits (start + x)
      · rw [checked, if_pos inside]
        exact ih inside
      · rw [checked, if_neg inside, if_neg fun fit => inside fit.first]
        rfl

theorem sum_eq (pool : Pool) :
    pool.sum = if SumsFit 0 pool then .ok (List.sum pool) else .error .overflow := by
  rw [Pool.sum, sum_from_eq (by decide : Fits 0), Int.zero_add]

end PartialSums

section Extremes

/-- What the positive members come to. -/
def gains (pool : Pool) : Int :=
  List.sum (pool.filter fun x => 0 < x)

/-- What the negative members come to. -/
def losses (pool : Pool) : Int :=
  List.sum (pool.filter fun x => x < 0)

theorem gains_cons (x : Int) (rest : Pool) : gains (x :: rest) = max x 0 + gains rest := by
  by_cases positive : 0 < x
  · rw [gains, List.filter_cons_of_pos (by simpa using positive), List.sum_cons, gains]
    omega
  · rw [gains, List.filter_cons_of_neg (by simpa using positive), gains]
    omega

theorem losses_cons (x : Int) (rest : Pool) : losses (x :: rest) = min x 0 + losses rest := by
  by_cases negative : x < 0
  · rw [losses, List.filter_cons_of_pos (by simpa using negative), List.sum_cons, losses]
    omega
  · rw [losses, List.filter_cons_of_neg (by simpa using negative), losses]
    omega

theorem gains_add_losses (pool : Pool) : gains pool + losses pool = List.sum pool := by
  induction pool with
  | nil => rfl
  | cons x rest ih =>
      rw [gains_cons, losses_cons, List.sum_cons]
      omega

theorem gains_nonneg (pool : Pool) : 0 ≤ gains pool := by
  induction pool with
  | nil => exact Int.le_refl 0
  | cons x rest ih =>
      rw [gains_cons]
      omega

theorem losses_nonpos (pool : Pool) : losses pool ≤ 0 := by
  induction pool with
  | nil => exact Int.le_refl 0
  | cons x rest ih =>
      rw [losses_cons]
      omega

theorem gains_of_nonpos (nonpos : ∀ x ∈ pool, x ≤ 0) : gains pool = 0 := by
  rw [gains, List.filter_eq_nil_iff.mpr, List.sum_nil]
  simpa using nonpos

theorem losses_of_nonneg (nonneg : ∀ x ∈ pool, 0 ≤ x) : losses pool = 0 := by
  rw [losses, List.filter_eq_nil_iff.mpr, List.sum_nil]
  simpa using nonneg

theorem sums_fit_between (low : lowest ≤ start + losses pool)
    (high : start + gains pool ≤ highest) : SumsFit start pool := by
  induction pool generalizing start with
  | nil => exact sums_fit_nil.mpr ⟨by simpa [losses] using low, by simpa [gains] using high⟩
  | cons x rest ih =>
      have gained := gains_nonneg rest
      have lost := losses_nonpos rest
      rw [losses_cons] at low
      rw [gains_cons] at high
      rw [sums_fit_cons]
      exact ⟨⟨by omega, by omega⟩, ih (by omega) (by omega)⟩

end Extremes

section Orders

theorem fits_of_every_order (every : ∀ order, order.Perm pool → SumsFit 0 order)
    (chosen : Int → Bool) : Fits (List.sum (pool.filter chosen)) := by
  let order := pool.filter chosen ++ pool.filter fun x => !chosen x
  have perm : order.Perm pool := List.filter_append_perm chosen pool
  have front : pool.filter chosen ∈ order.inits :=
    (List.mem_inits _ _).mpr (List.prefix_append _ _)
  have fits := every order perm _ front
  rwa [Int.zero_add] at fits

/-- Without a member that leads back towards zero, the sums move in one direction. -/
theorem sums_fit_one_way (fits : Fits start) (whole : Fits (start + List.sum pool))
    (oneWay : ∀ x ∈ pool, (start ≤ 0 → x ≤ 0) ∧ (0 ≤ start → 0 ≤ x)) : SumsFit start pool := by
  have parts := gains_add_losses pool
  rcases Int.le_total start 0 with below | above
  · have noGains := gains_of_nonpos fun x member => (oneWay x member).1 below
    apply sums_fit_between
    · rw [noGains, Int.zero_add] at parts
      exact parts ▸ whole.1
    · rw [noGains, Int.add_zero]
      exact fits.2
  · have noLosses := losses_of_nonneg fun x member => (oneWay x member).2 above
    apply sums_fit_between
    · rw [noLosses, Int.add_zero]
      exact fits.1
    · rw [noLosses, Int.add_zero] at parts
      exact parts ▸ whole.2

theorem exists_order_from (members : ∀ x ∈ pool, Fits x) (fits : Fits start)
    (whole : Fits (start + List.sum pool)) : ∃ order, order.Perm pool ∧ SumsFit start order := by
  induction size : pool.length generalizing pool start with
  | zero =>
      rw [List.length_eq_zero_iff.mp size]
      exact ⟨[], .refl [], sums_fit_nil.mpr fits⟩
  | succ count ih =>
      -- A member on the other side of zero leads back towards it, so it can come next.
      by_cases back : ∃ x ∈ pool, start ≤ 0 ∧ 0 < x ∨ 0 ≤ start ∧ x < 0
      · obtain ⟨x, member, opposite⟩ := back
        have perm := List.perm_cons_erase member
        have next : Fits (start + x) := by
          have own := members x member
          simp only [Fits, lowest, highest] at fits own ⊢
          omega
        have others : ∀ other ∈ pool.erase x, Fits other :=
          fun other among => members other (List.mem_of_mem_erase among)
        have remaining : Fits (start + x + List.sum (pool.erase x)) := by
          rw [perm.sum_eq, List.sum_cons, ← Int.add_assoc] at whole
          exact whole
        have fewer : (pool.erase x).length = count := by
          rw [List.length_erase_of_mem member, size, Nat.add_sub_cancel]
        obtain ⟨order, same, fit⟩ := ih others next remaining fewer
        exact ⟨x :: order, (same.cons x).trans perm.symm, sums_fit_cons.mpr ⟨fits, fit⟩⟩
      · refine ⟨pool, .refl pool, sums_fit_one_way fits whole fun x member => ?_⟩
        constructor
        · intro below
          exact Int.not_lt.mp fun positive => back ⟨x, member, .inl ⟨below, positive⟩⟩
        · intro above
          exact Int.not_lt.mp fun negative => back ⟨x, member, .inr ⟨above, negative⟩⟩

theorem every_order_fits_iff :
    (∀ order, order.Perm pool → SumsFit 0 order) ↔
      gains pool ≤ highest ∧ lowest ≤ losses pool := by
  constructor
  · intro every
    exact ⟨(fits_of_every_order every fun x => 0 < x).2,
      (fits_of_every_order every fun x => x < 0).1⟩
  · rintro ⟨high, low⟩ order perm
    have gained : gains order = gains pool := (perm.filter _).sum_eq
    have lost : losses order = losses pool := (perm.filter _).sum_eq
    apply sums_fit_between
    · rwa [lost, Int.zero_add]
    · rwa [gained, Int.zero_add]

theorem sum_of_perm {order : Pool} (perm : order.Perm pool) :
    order.sum = if SumsFit 0 order then .ok (List.sum pool) else .error .overflow := by
  rw [sum_eq, perm.sum_eq]

/-- An order goes wrong only on the way to a sum that fits. -/
theorem sum_of_perm_eq_checked_iff {order : Pool} (perm : order.Perm pool) :
    order.sum = checked (List.sum pool) ↔ (Fits (List.sum pool) → SumsFit 0 order) := by
  rw [sum_of_perm perm, checked]
  by_cases fit : SumsFit 0 order
  · have whole : Fits (List.sum pool) := by
      have reached := fit.last
      rwa [Int.zero_add, perm.sum_eq] at reached
    simp [fit, whole]
  · by_cases whole : Fits (List.sum pool)
    · simp [fit, whole]
    · simp [fit, whole]

theorem exists_order_summed (members : ∀ x ∈ pool, Fits x) (whole : Fits (List.sum pool)) :
    ∃ order : Pool, order.Perm pool ∧ order.sum = .ok (List.sum pool) := by
  have fromZero : Fits (0 + List.sum pool) := by rwa [Int.zero_add]
  obtain ⟨order, perm, fit⟩ := exists_order_from members (by decide) fromZero
  exact ⟨order, perm, by rw [sum_of_perm perm, if_pos fit]⟩

theorem every_order_exact_iff :
    (∀ order : Pool, order.Perm pool → order.sum = checked (List.sum pool)) ↔
      (Fits (List.sum pool) → gains pool ≤ highest ∧ lowest ≤ losses pool) := by
  rw [← every_order_fits_iff]
  constructor
  · intro every whole order perm
    exact (sum_of_perm_eq_checked_iff perm).mp (every order perm) whole
  · intro every order perm
    exact (sum_of_perm_eq_checked_iff perm).mpr fun whole => every whole order perm

theorem extremes_fit_of_one_sign (oneSign : (∀ x ∈ pool, 0 ≤ x) ∨ ∀ x ∈ pool, x ≤ 0)
    (whole : Fits (List.sum pool)) : gains pool ≤ highest ∧ lowest ≤ losses pool := by
  have parts := gains_add_losses pool
  rcases oneSign with nonneg | nonpos
  · have noLosses := losses_of_nonneg nonneg
    have gained : gains pool = List.sum pool := by omega
    exact ⟨gained ▸ whole.2, noLosses ▸ by decide⟩
  · have noGains := gains_of_nonpos nonpos
    have lost : losses pool = List.sum pool := by omega
    exact ⟨noGains ▸ by decide, lost ▸ whole.1⟩

end Orders

/-- In whatever order a pool is summed, the true sum is given if all partial sums fit, and overflow
is reported otherwise. A true sum that fits is given in some order. It is given in every order, and
the order makes no difference, exactly if the positive members on their own come to a sum that fits,
and so do the negative ones; in particular, if the members are all of one sign. -/
theorem sum_in_any_order (members : ∀ x ∈ pool, Fits x) :
    (∀ order : Pool, order.Perm pool →
      order.sum = if SumsFit 0 order then .ok (List.sum pool) else .error .overflow) ∧
    (Fits (List.sum pool) →
      ∃ order : Pool, order.Perm pool ∧ order.sum = .ok (List.sum pool)) ∧
    ((∀ order : Pool, order.Perm pool → order.sum = pool.sum) ↔
      ∀ order : Pool, order.Perm pool → order.sum = checked (List.sum pool)) ∧
    ((∀ order : Pool, order.Perm pool → order.sum = checked (List.sum pool)) ↔
      (Fits (List.sum pool) → gains pool ≤ highest ∧ lowest ≤ losses pool)) ∧
    ((∀ x ∈ pool, 0 ≤ x) ∨ (∀ x ∈ pool, x ≤ 0) →
      ∀ order : Pool, order.Perm pool → order.sum = checked (List.sum pool)) := by
  refine ⟨fun order perm => sum_of_perm perm, exists_order_summed members, ⟨?_, ?_⟩,
    every_order_exact_iff, ?_⟩
  · intro alike order perm
    by_cases whole : Fits (List.sum pool)
    · obtain ⟨found, foundPerm, given⟩ := exists_order_summed members whole
      rw [alike order perm, ← alike found foundPerm, given, checked, if_pos whole]
    · exact (sum_of_perm_eq_checked_iff perm).mpr fun fits => absurd fits whole
  · intro every order perm
    rw [every order perm, every pool (.refl pool)]
  · intro oneSign
    exact every_order_exact_iff.mpr (extremes_fit_of_one_sign oneSign)

/-- Two positive members that come to the greatest number, and a negative one. -/
theorem sum_in_any_order_greatest :
    let pool : Pool := [5, -3, highest - 5]
    (∀ x ∈ pool, Fits x) ∧
      ∀ order : Pool, order.Perm pool → order.sum = .ok (highest - 3) := by
  intro pool
  have members : ∀ x ∈ pool, Fits x := by decide
  obtain ⟨_, _, _, exactly, _⟩ := sum_in_any_order members
  exact ⟨members, exactly.mpr fun _ => by decide⟩

/-- The same three members: one order leads above the greatest number, the other one to it. -/
theorem sum_depends_on_order :
    let pool : Pool := [highest, 1, -1]
    let order : Pool := [highest, -1, 1]
    (∀ x ∈ pool, Fits x) ∧ order.Perm pool ∧ Fits (List.sum pool) ∧
      pool.sum = .error .overflow ∧ order.sum = .ok highest := by
  decide

end DiceLang.Pool
