import DiceLang.Event
import DiceLang.Roller

/-!
# Plans

A plan is what a computation asks of the dice: it is finished, it has failed, it wants dice and
goes on according to their faces, or it has something for the log. Everything that evaluation does
is a plan, so a law about budgets, rollers or draws is one induction over plans and holds of every
operator at once.

Plans that want dice say how they fail if the dice are refused. Every branch of a plan is finite,
whatever faces come up.
-/

namespace DiceLang

set_option autoImplicit false

inductive Plan (ε α : Type) where
  | done (result : α)
  | fail (error : ε)
  | rollMany (die : Die) (count : Nat) (refusal : ε) (next : List UInt32 → Plan ε α)
  | rollOne (die : Die) (refusal : ε) (next : UInt32 → Plan ε α)
  | note (event : Event) (rest : Plan ε α)

namespace Plan

variable {ε ε' α β : Type}

protected def bind : Plan ε α → (α → Plan ε β) → Plan ε β
  | done a, next => next a
  | fail e, _ => fail e
  | rollMany die count refusal k, next =>
      rollMany die count refusal fun faces => (k faces).bind next
  | rollOne die refusal k, next => rollOne die refusal fun face => (k face).bind next
  | note event rest, next => note event (rest.bind next)

instance : Monad (Plan ε) where
  pure := done
  bind := Plan.bind

def mapError (f : ε → ε') : Plan ε α → Plan ε' α
  | done a => done a
  | fail e => fail (f e)
  | rollMany die count refusal k =>
      rollMany die count (f refusal) fun faces => (k faces).mapError f
  | rollOne die refusal k => rollOne die (f refusal) fun face => (k face).mapError f
  | note event rest => note event (rest.mapError f)

def ofExcept : Except ε α → Plan ε α
  | .ok a => done a
  | .error e => fail e

/-- Leaves an event in the log. -/
def log (event : Event) : Plan ε Unit :=
  note event (done ())

@[simp]
theorem pure_eq_done (a : α) : (pure a : Plan ε α) = done a := rfl

@[simp]
theorem done_bind (a : α) (next : α → Plan ε β) : (done a >>= next) = next a := rfl

@[simp]
theorem fail_bind (e : ε) (next : α → Plan ε β) : (fail e >>= next) = fail e := rfl

@[simp]
theorem rollMany_bind (die : Die) (count : Nat) (refusal : ε) (k : List UInt32 → Plan ε α)
    (next : α → Plan ε β) :
    (rollMany die count refusal k >>= next) =
      rollMany die count refusal fun faces => k faces >>= next := rfl

@[simp]
theorem rollOne_bind (die : Die) (refusal : ε) (k : UInt32 → Plan ε α)
    (next : α → Plan ε β) :
    (rollOne die refusal k >>= next) = rollOne die refusal fun face => k face >>= next := rfl

@[simp]
theorem note_bind (event : Event) (rest : Plan ε α) (next : α → Plan ε β) :
    (note event rest >>= next) = note event (rest >>= next) := rfl

theorem bind_done (plan : Plan ε α) : (plan >>= done) = plan := by
  induction plan with
  | done a => rfl
  | fail e => rfl
  | rollMany die count refusal k ih =>
      rw [rollMany_bind]
      exact congrArg _ (funext ih)
  | rollOne die refusal k ih =>
      rw [rollOne_bind]
      exact congrArg _ (funext ih)
  | note event rest ih => rw [note_bind, ih]

theorem bind_assoc {γ : Type} (plan : Plan ε α) (first : α → Plan ε β) (second : β → Plan ε γ) :
    (plan >>= first >>= second) = plan >>= fun a => first a >>= second := by
  induction plan with
  | done a => rfl
  | fail e => rfl
  | rollMany die count refusal k ih =>
      simp only [rollMany_bind]
      exact congrArg _ (funext ih)
  | rollOne die refusal k ih =>
      simp only [rollOne_bind]
      exact congrArg _ (funext ih)
  | note event rest ih => simp only [note_bind, ih]

instance : LawfulMonad (Plan ε) :=
  LawfulMonad.mk' _ bind_done (fun _ _ => rfl) bind_assoc

end Plan

end DiceLang
