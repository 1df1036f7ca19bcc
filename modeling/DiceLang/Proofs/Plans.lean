import DiceLang.Proofs.Errors
import DiceLang.Proofs.Runs

/-!
# How plans end and what they log

What a plan can give, how it can fail and which events it leaves can be told from the plan itself,
for all faces at once. Carrying it out keeps to that in every context.
-/

namespace DiceLang

set_option autoImplicit false

/-- Every result of the plan is one of those in `gives` and every error one of those in
`fails`. -/
def Plan.Ends {ε α : Type} (gives : α → Prop) (fails : ε → Prop) : Plan ε α → Prop
  | done result => gives result
  | fail error => fails error
  | rollMany _ _ refusal next => fails refusal ∧ ∀ faces, (next faces).Ends gives fails
  | rollOne _ refusal next => fails refusal ∧ ∀ face, (next face).Ends gives fails
  | note _ rest => rest.Ends gives fails

/-- The same of a result, however it came about. -/
def ResultEnds {ε α : Type} (gives : α → Prop) (fails : ε → Prop) : Except ε α → Prop
  | .ok result => gives result
  | .error error => fails error

namespace ResultEnds

variable {ε α β : Type} {gives : α → Prop} {fails : ε → Prop} {first : Except ε β} {f : β → α}

theorem bind_pure (failed : FailsOnly fails first) (given : ∀ b, gives (f b)) :
    ResultEnds gives fails (first >>= fun b => pure (f b)) := by
  cases first with
  | ok b => exact given b
  | error e => exact failed

theorem map (failed : FailsOnly fails first) (given : ∀ b, gives (f b)) :
    ResultEnds gives fails (first.map f) := by
  cases first with
  | ok b => exact given b
  | error e => exact failed

end ResultEnds

namespace Plan.Ends

variable {ε ε' α β : Type} {gives : α → Prop} {fails : ε → Prop}

/-- What comes later may fail in more ways, but it may rely on the result. -/
theorem bind {plan : Plan ε α} {next : α → Plan ε β} {later : β → Prop} {others : ε → Prop}
    (here : plan.Ends gives fails) (failed : ∀ error, fails error → others error)
    (there : ∀ a, gives a → (next a).Ends later others) : (plan >>= next).Ends later others := by
  induction plan with
  | done a => exact there a here
  | fail e => exact failed e here
  | rollMany die count refusal k ih =>
      exact ⟨failed refusal here.1, fun faces => ih faces (here.2 faces)⟩
  | rollOne die refusal k ih =>
      exact ⟨failed refusal here.1, fun face => ih face (here.2 face)⟩
  | note event rest ih => exact ih here

theorem mapError {plan : Plan ε α} (here : plan.Ends gives fails) {f : ε → ε'}
    {less : α → Prop} {others : ε' → Prop} (given : ∀ a, gives a → less a)
    (failed : ∀ error, fails error → others (f error)) :
    (plan.mapError f).Ends less others := by
  induction plan with
  | done a => exact given a here
  | fail e => exact failed e here
  | rollMany die count refusal k ih =>
      exact ⟨failed refusal here.1, fun faces => ih faces (here.2 faces)⟩
  | rollOne die refusal k ih =>
      exact ⟨failed refusal here.1, fun face => ih face (here.2 face)⟩
  | note event rest ih => exact ih here

theorem ofExcept {result : Except ε α} (ends : ResultEnds gives fails result) :
    (Plan.ofExcept result).Ends gives fails := by
  cases result with
  | ok a => exact ends
  | error e => exact ends

theorem bind_pure {plan : Plan ε β} {f : β → α} (errors : plan.ErrorsIn fails fails)
    (given : ∀ b, gives (f b)) : (plan >>= fun b => pure (f b)).Ends gives fails := by
  induction plan with
  | done b => exact given b
  | fail e => exact errors
  | rollMany die count refusal k ih => exact ⟨errors.1, fun faces => ih faces (errors.2 faces)⟩
  | rollOne die refusal k ih => exact ⟨errors.1, fun face => ih face (errors.2 face)⟩
  | note event rest ih => exact ih errors

theorem run {σ : Type} [Roller σ] {plan : Plan ε α} (ends : plan.Ends gives fails)
    (context : Context σ) : ResultEnds gives fails (plan.run context).result := by
  induction plan generalizing context with
  | done a => exact ends
  | fail e => exact ends
  | rollMany die count refusal next ih =>
      rw [run_roll_many, Context.ask]
      split
      · exact ends.1
      · exact ih _ (ends.2 _) _
  | rollOne die refusal next ih =>
      rw [run_roll_one, Context.ask]
      split
      · exact ends.1
      · exact ih _ (ends.2 _) _
  | note event rest ih => exact ih ends context

end Plan.Ends

/-- Every event that the plan leaves is one of those allowed. -/
def Plan.Logs {ε α : Type} (allowed : Event → Prop) : Plan ε α → Prop
  | done _ => True
  | fail _ => True
  | rollMany _ _ _ next => ∀ faces, (next faces).Logs allowed
  | rollOne _ _ next => ∀ face, (next face).Logs allowed
  | note event rest => allowed event ∧ rest.Logs allowed

namespace Plan.Logs

variable {ε α β : Type} {allowed : Event → Prop}

theorem bind {plan : Plan ε α} {next : α → Plan ε β} (here : plan.Logs allowed)
    (there : ∀ a, (next a).Logs allowed) : (plan >>= next).Logs allowed := by
  induction plan with
  | done a => exact there a
  | fail e => trivial
  | rollMany die count refusal k ih => exact fun faces => ih faces (here faces)
  | rollOne die refusal k ih => exact fun face => ih face (here face)
  | note event rest ih => exact ⟨here.1, ih here.2⟩

theorem ofExcept (result : Except ε α) : (Plan.ofExcept result).Logs allowed := by
  cases result with
  | ok a => trivial
  | error e => trivial

theorem mapM {γ : Type} {f : γ → Plan ε β} (each : ∀ c, (f c).Logs allowed) (items : List γ) :
    (items.mapM f).Logs allowed := by
  induction items with
  | nil => trivial
  | cons item rest ih =>
      rw [List.mapM_cons]
      exact (each item).bind fun _ => ih.bind fun _ => trivial

theorem run {σ : Type} [Roller σ] {plan : Plan ε α} (logs : plan.Logs allowed)
    (context : Context σ) : ∀ event ∈ (plan.run context).events, allowed event := by
  induction plan generalizing context with
  | done a =>
      intro event member
      cases member
  | fail e =>
      intro event member
      cases member
  | rollMany die count refusal next ih =>
      rw [run_roll_many, Context.ask]
      split
      · intro event member
        cases member
      · exact ih _ (logs _) _
  | rollOne die refusal next ih =>
      rw [run_roll_one, Context.ask]
      split
      · intro event member
        cases member
      · exact ih _ (logs _) _
  | note noted rest ih =>
      intro event member
      rcases List.mem_cons.mp member with rfl | later
      · exact logs.1
      · exact ih logs.2 context event later

end Plan.Logs

/-- The events of dice that are thrown, as against those of operators and of whole rolls. -/
def Event.IsThrow : Event → Prop
  | rolled _ _ _ | exploded _ _ _ | botched _ => True
  | registered _ _ | applied _ _ _ | finished _ _ => False

namespace Dice

theorem pool_logs (count size : Int) : (pool count size).Logs Event.IsThrow := by
  apply (Plan.Logs.ofExcept _).bind
  intro number
  apply (Plan.Logs.ofExcept _).bind
  intro die
  exact fun faces => ⟨trivial, trivial⟩

theorem explode_logs (die : Die) (total : Int) : (explode die total).Logs Event.IsThrow := by
  induction total using explode.induct die with
  | case1 total ih =>
      rw [explode]
      intro face
      dsimp only
      split
      · rename_i fits
        split
        · rename_i greatest
          exact ih face fits greatest
        · trivial
      · trivial

theorem settle_logs (die : Die) (first : Int) : (settle die first).Logs Event.IsThrow := by
  unfold settle
  split
  · exact explode_logs die first
  · trivial

theorem exploding_pool_logs (count size : Int) :
    (explodingPool count size).Logs Event.IsThrow := by
  unfold explodingPool
  split
  · trivial
  · apply (Plan.Logs.ofExcept _).bind
    intro die
    apply (pool_logs count size).bind
    intro first
    exact (Plan.Logs.mapM (settle_logs die) first).bind fun _ => ⟨trivial, trivial⟩

theorem exploding_total_logs (count size : Int) :
    (explodingTotal count size).Logs Event.IsThrow :=
  (exploding_pool_logs count size).bind fun _ => .ofExcept _

theorem wild_logs (count size : Int) : (wild count size).Logs Event.IsThrow := by
  unfold wild
  split
  · trivial
  · apply (exploding_total_logs 1 size).bind
    intro wild
    apply (pool_logs (count - 1) size).bind
    intro regular
    split
    · exact ⟨trivial, trivial⟩
    · exact (Plan.Logs.ofExcept _).bind fun _ => .ofExcept _

end Dice

theorem DiceRoll.apply_logs (op : DiceRoll) (count size : Int) :
    (op.apply count size).Logs Event.IsThrow := by
  have pool := Dice.pool_logs count size
  cases op with
  | total => exact pool.bind fun _ => .ofExcept _
  | exploding => exact Dice.exploding_total_logs count size
  | highest =>
      apply pool.bind
      intro members
      split <;> trivial
  | lowest =>
      apply pool.bind
      intro members
      split <;> trivial
  | wild => exact Dice.wild_logs count size
  | concatenated => exact pool.bind fun _ => (Plan.Logs.ofExcept _).bind fun _ => .ofExcept _

theorem BinaryOperator.apply_logs (maps : DiceMaps) (op : BinaryOperator) (lhs rhs : Value) :
    (op.apply maps lhs rhs).Logs Event.IsThrow := by
  cases op with
  | dice op =>
      apply (Plan.Logs.ofExcept _).bind
      intro count
      apply (Plan.Logs.ofExcept _).bind
      intro size
      exact (op.apply_logs count size).bind fun _ => trivial
  | poolGeneration op =>
      apply (Plan.Logs.ofExcept _).bind
      intro count
      apply (Plan.Logs.ofExcept _).bind
      intro size
      cases op with
      | plain => exact (Dice.pool_logs count size).bind fun _ => trivial
      | exploding => exact (Dice.exploding_pool_logs count size).bind fun _ => trivial
  | _ => exact .ofExcept _

end DiceLang
