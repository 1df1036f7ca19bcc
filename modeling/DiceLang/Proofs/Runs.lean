import DiceLang.Session

/-!
# How plans and lists of rolls run

There is one way to get dice: they are charged, and then drawn or refused. A batch and a single
die differ in how many are charged and in how the roller is asked, and in nothing else that
matters to the rest of the context. Whatever charging, drawing and registering maps keep is
therefore kept by every run.
-/

namespace DiceLang

set_option autoImplicit false

theorem Budget.is_overdrawn_iff (budget : Budget) :
    budget.isOverdrawn = true ↔ ∃ limit, budget.limit = some limit ∧ limit < budget.spent := by
  unfold isOverdrawn
  split
  · rename_i unlimited
    simp [unlimited]
  · rename_i limit limited
    simp [limited]

namespace Context

variable {σ τ ρ β : Type}

def charge (context : Context σ) (count : Nat) : Context σ :=
  { context with budget := context.budget.charge count }

def withRoller (context : Context σ) (roller : τ) : Context τ :=
  ⟨roller, context.budget, context.maps⟩

def withMaps (context : Context σ) (maps : DiceMaps) : Context σ :=
  { context with maps }

/-- Charges `count` dice and goes on as refused if that passes the limit, and else with what is
drawn. -/
def ask (context : Context σ) (count : Nat) (draw : σ → ρ × σ) (refused : Context σ → β)
    (granted : ρ → Context σ → β) : β :=
  if (context.budget.charge count).isOverdrawn then refused (context.charge count)
  else granted (draw context.roller).1
    ((context.charge count).withRoller (draw context.roller).2)

end Context

namespace Plan

variable {σ ε α : Type} [Roller σ]

theorem run_roll_many (die : Die) (count : Nat) (refusal : ε)
    (next : List UInt32 → Plan ε α) (context : Context σ) :
    (rollMany die count refusal next).run context =
      context.ask count (Roller.drawBatch die count)
        (fun charged => ⟨.error refusal, charged, []⟩) fun faces => (next faces).run := by
  rw [run, Context.rollFirst, Nat.min_self, Context.ask]
  by_cases overdrawn : (context.budget.charge count).isOverdrawn = true
  · rw [if_pos overdrawn, if_pos overdrawn]
    rfl
  · rw [if_neg overdrawn, if_neg overdrawn]
    rfl

theorem run_roll_one (die : Die) (refusal : ε) (next : UInt32 → Plan ε α)
    (context : Context σ) :
    (rollOne die refusal next).run context =
      context.ask 1 (Roller.draw .single die) (fun charged => ⟨.error refusal, charged, []⟩)
        fun face => (next face).run := by
  rw [run, Context.rollOne, Context.ask]
  by_cases overdrawn : (context.budget.charge 1).isOverdrawn = true
  · rw [if_pos overdrawn, if_pos overdrawn]
    rfl
  · rw [if_neg overdrawn, if_neg overdrawn]
    rfl

end Plan

/-- Goes on with a result in the context that was left, and stops at an error. -/
def Outcome.andThen {σ ε α β : Type} (outcome : Outcome σ ε α)
    (next : α → Context σ → Outcome σ ε β) : Outcome σ ε β :=
  match outcome.result with
  | .ok a => (next a outcome.context).after outcome.events
  | .error error => ⟨.error error, outcome.context, outcome.events⟩

namespace Outcome

variable {σ ε α β γ : Type}

theorem and_then_of_ok {outcome : Outcome σ ε α} {a : α} (given : outcome.result = .ok a)
    (next : α → Context σ → Outcome σ ε β) :
    outcome.andThen next = (next a outcome.context).after outcome.events := by
  rw [andThen, given]

theorem and_then_of_error {outcome : Outcome σ ε α} {error : ε}
    (failed : outcome.result = .error error) (next : α → Context σ → Outcome σ ε β) :
    outcome.andThen next = ⟨.error error, outcome.context, outcome.events⟩ := by
  rw [andThen, failed]

@[simp]
theorem after_nil (outcome : Outcome σ ε α) : outcome.after [] = outcome := rfl

@[simp]
theorem map_id_fun (outcome : Outcome σ ε α) : (outcome.map fun a => a) = outcome := by
  cases outcome with
  | mk result context events => cases result <;> rfl

theorem map_map (outcome : Outcome σ ε α) (f : α → β) (g : β → γ) :
    (outcome.map f).map g = outcome.map fun a => g (f a) := by
  cases outcome with
  | mk result context events => cases result <;> rfl

theorem map_ok_iff {outcome : Outcome σ ε α} {f : α → β} {b : β} :
    (outcome.map f).result = .ok b ↔ ∃ a, outcome.result = .ok a ∧ f a = b := by
  cases outcome with
  | mk result context events => cases result <;> simp [map, Except.map]

theorem map_error_iff {outcome : Outcome σ ε α} {f : α → β} {error : ε} :
    (outcome.map f).result = .error error ↔ outcome.result = .error error := by
  cases outcome with
  | mk result context events => cases result <;> simp [map, Except.map]

theorem and_then_done (outcome : Outcome σ ε α) :
    (outcome.andThen fun a context => ⟨.ok a, context, []⟩) = outcome := by
  cases outcome with
  | mk result context events => cases result <;> simp [andThen, after]

theorem after_and_then (outcome : Outcome σ ε α) (next : α → Context σ → Outcome σ ε β)
    (earlier : List Event) :
    (outcome.andThen next).after earlier = (outcome.after earlier).andThen next := by
  unfold andThen after
  cases outcome.result <;> simp

theorem and_then_map (outcome : Outcome σ ε α) (f : α → β)
    (next : β → Context σ → Outcome σ ε γ) :
    (outcome.map f).andThen next = outcome.andThen fun a => next (f a) := by
  unfold andThen map
  cases outcome.result with
  | ok a => rfl
  | error error => rfl

theorem map_and_then (outcome : Outcome σ ε α) (next : α → Context σ → Outcome σ ε β)
    (f : β → γ) :
    (outcome.andThen next).map f = outcome.andThen fun a context => (next a context).map f := by
  unfold andThen map
  cases outcome.result with
  | ok a => rfl
  | error error => rfl

theorem and_then_assoc (outcome : Outcome σ ε α) (next : α → Context σ → Outcome σ ε β)
    (last : β → Context σ → Outcome σ ε γ) :
    (outcome.andThen next).andThen last =
      outcome.andThen fun a context => (next a context).andThen last := by
  unfold andThen
  cases outcome.result with
  | ok a =>
      dsimp only [after]
      cases (next a outcome.context).result with
      | ok b => simp
      | error error => rfl
  | error error => rfl

theorem and_then_congr {outcome : Outcome σ ε α} {next other : α → Context σ → Outcome σ ε β}
    (same : ∀ a, outcome.result = .ok a → next a outcome.context = other a outcome.context) :
    outcome.andThen next = outcome.andThen other := by
  unfold andThen
  cases result : outcome.result with
  | ok a => exact congrArg (after · outcome.events) (same a result)
  | error error => rfl

end Outcome

theorem Plan.run_bind_and_then {σ ε α β : Type} [Roller σ] (plan : Plan ε α)
    (next : α → Plan ε β) (context : Context σ) :
    (plan >>= next).run context = (plan.run context).andThen fun a => (next a).run := by
  cases ended : (plan.run context).result with
  | ok a => simp only [run_bind, Outcome.andThen, ended]
  | error error => simp only [run_bind, Outcome.andThen, ended]

/-- Translates the errors of an outcome. -/
def Outcome.mapError {σ ε ε' α : Type} (f : ε → ε') (outcome : Outcome σ ε α) : Outcome σ ε' α :=
  ⟨outcome.result.mapError f, outcome.context, outcome.events⟩

theorem Plan.run_map_error {σ ε ε' α : Type} [Roller σ] (f : ε → ε') (plan : Plan ε α)
    (context : Context σ) : (plan.mapError f).run context = (plan.run context).mapError f := by
  induction plan generalizing context with
  | done a => rfl
  | fail e => rfl
  | rollMany die count refusal next ih =>
      rw [Plan.mapError, run_roll_many, run_roll_many, Context.ask, Context.ask]
      split
      · rfl
      · exact ih _ _
  | rollOne die refusal next ih =>
      rw [Plan.mapError, run_roll_one, run_roll_one, Context.ask, Context.ask]
      split
      · rfl
      · exact ih _ _
  | note event rest ih =>
      rw [Plan.mapError, run, run, ih]
      rfl

theorem Context.perform_expression {σ : Type} [Roller σ] (expr : Expr) (rest : List Roll)
    (index : Nat) (context : Context σ) :
    performRolls (.expression expr :: rest) index context =
      ((expr.eval context.maps).run context).andThen fun value context =>
        ((performRolls rest (index + 1) context).map (value :: ·)).after
          [.finished index value] := by
  rw [performRolls, Outcome.andThen]
  cases ((expr.eval context.maps).run context).result with
  | error error => rfl
  | ok value => simp [Outcome.after]

theorem Context.perform_of_clean {σ : Type} [Roller σ] (context : Context σ) {reading : Reading}
    (clean : reading.fault = none) :
    context.perform reading = performRolls reading.rolls 0 context := by
  rw [perform, clean]

theorem Context.perform_of_fault {σ : Type} [Roller σ] (context : Context σ) {reading : Reading}
    {fault : ReadError} (found : reading.fault = some fault) :
    context.perform reading =
      (performRolls reading.rolls 0 context).andThen fun _ context =>
        ⟨.error fault, context, []⟩ := by
  rw [perform, found, Outcome.andThen]
  cases performed : (performRolls reading.rolls 0 context).result with
  | ok values => simp [Except.bind, Outcome.after]
  | error error => simp [Except.bind]

/-- What is left of the values of a list of rolls once its fault, if there is one, is reported. -/
def Context.conclude {σ : Type} (fault : Option ReadError) (values : List Value)
    (context : Context σ) : Outcome σ ReadError (List Value) :=
  match fault with
  | none => ⟨.ok values, context, []⟩
  | some fault => ⟨.error fault, context, []⟩

theorem Context.perform_and_then {σ : Type} [Roller σ] (context : Context σ) (reading : Reading) :
    context.perform reading =
      (performRolls reading.rolls 0 context).andThen (conclude reading.fault) := by
  cases found : reading.fault with
  | none => exact (context.perform_of_clean found).trans (Outcome.and_then_done _).symm
  | some fault => exact context.perform_of_fault found

theorem Context.evaluate_of_nonempty {σ : Type} [Roller σ] (context : Context σ)
    {tokens : List Token} (nonempty : tokens ≠ []) :
    context.evaluate tokens =
      (context.resetRolls.perform (.ofTokens tokens)).map Value.gather := by
  have notEmpty : ¬tokens.isEmpty = true := by
    rw [List.isEmpty_iff]
    exact nonempty
  rw [Context.evaluate, if_neg notEmpty]

section Keeping

variable {σ ε α ρ : Type} (Holds : Context σ → Prop)

/-- The request is answered from contexts with the property, so what it goes on with may rely on
it. -/
theorem Context.ask_keeps {context : Context σ} {count : Nat} {draw : σ → ρ × σ}
    {refusal : ε} {granted : ρ → Context σ → Outcome σ ε α}
    (charged : ∀ context count, Holds context → Holds (context.charge count))
    (drawn : ∀ (context : Context σ) (roller : σ), Holds context →
      Holds (context.withRoller roller))
    (onward : ∀ faces context, Holds context → Holds (granted faces context).context)
    (holds : Holds context) :
    Holds (context.ask count draw (fun charged => ⟨.error refusal, charged, []⟩)
      granted).context := by
  unfold Context.ask
  split
  · exact charged context count holds
  · exact onward _ _ (drawn _ _ (charged context count holds))

theorem Outcome.and_then_keeps {β : Type} {outcome : Outcome σ ε α}
    {next : α → Context σ → Outcome σ ε β} (here : Holds outcome.context)
    (there : ∀ a context, Holds context → Holds (next a context).context) :
    Holds (outcome.andThen next).context := by
  unfold Outcome.andThen
  split
  · exact there _ _ here
  · exact here

variable [Roller σ]

theorem Plan.run_keeps
    (charged : ∀ context count, Holds context → Holds (context.charge count))
    (drawn : ∀ (context : Context σ) (roller : σ), Holds context →
      Holds (context.withRoller roller))
    (plan : Plan ε α) {context : Context σ} (holds : Holds context) :
    Holds (plan.run context).context := by
  induction plan generalizing context with
  | done a => exact holds
  | fail e => exact holds
  | rollMany die count refusal next ih =>
      rw [run_roll_many]
      exact Context.ask_keeps Holds charged drawn (fun faces _ => ih faces) holds
  | rollOne die refusal next ih =>
      rw [run_roll_one]
      exact Context.ask_keeps Holds charged drawn (fun face _ => ih face) holds
  | note event rest ih => exact ih holds

theorem Context.perform_rolls_keeps
    (charged : ∀ context count, Holds context → Holds (context.charge count))
    (drawn : ∀ (context : Context σ) (roller : σ), Holds context →
      Holds (context.withRoller roller))
    (registered : ∀ (context : Context σ) (maps : DiceMaps), Holds context →
      Holds (context.withMaps maps))
    (rolls : List Roll) (index : Nat) {context : Context σ} (holds : Holds context) :
    Holds (performRolls rolls index context).context := by
  induction rolls generalizing index context with
  | nil => exact holds
  | cons roll rest ih =>
      cases roll with
      | diceMap name map => exact ih index (registered context _ holds)
      | expression expr =>
          have ran := Plan.run_keeps Holds charged drawn (expr.eval context.maps) holds
          rw [perform_expression]
          exact Outcome.and_then_keeps Holds ran fun _ _ => ih (index + 1)

theorem Context.perform_keeps
    (charged : ∀ context count, Holds context → Holds (context.charge count))
    (drawn : ∀ (context : Context σ) (roller : σ), Holds context →
      Holds (context.withRoller roller))
    (registered : ∀ (context : Context σ) (maps : DiceMaps), Holds context →
      Holds (context.withMaps maps))
    (reading : Reading) {context : Context σ} (holds : Holds context) :
    Holds (context.perform reading).context := by
  have performed := perform_rolls_keeps Holds charged drawn registered reading.rolls 0 holds
  cases found : reading.fault with
  | none =>
      rw [perform_of_clean _ found]
      exact performed
  | some fault =>
      rw [perform_of_fault _ found]
      exact Outcome.and_then_keeps Holds performed fun _ _ holds => holds

theorem Context.evaluate_keeps
    (charged : ∀ context count, Holds context → Holds (context.charge count))
    (drawn : ∀ (context : Context σ) (roller : σ), Holds context →
      Holds (context.withRoller roller))
    (registered : ∀ (context : Context σ) (maps : DiceMaps), Holds context →
      Holds (context.withMaps maps))
    (reset : ∀ context : Context σ, Holds context → Holds context.resetRolls)
    (tokens : List Token) {context : Context σ} (holds : Holds context) :
    Holds (context.evaluate tokens).context := by
  by_cases empty : tokens = []
  · rw [empty]
    exact holds
  · rw [evaluate_of_nonempty _ empty]
    exact perform_keeps Holds charged drawn registered (.ofTokens tokens) (reset context holds)

end Keeping

theorem Plan.run_maps {σ ε α : Type} [Roller σ] (plan : Plan ε α) (context : Context σ) :
    (plan.run context).context.maps = context.maps :=
  plan.run_keeps (fun reached => reached.maps = context.maps) (fun _ _ same => same)
    (fun _ _ same => same) rfl

theorem Context.evaluate_limit {σ : Type} [Roller σ] (context : Context σ)
    (tokens : List Token) : (context.evaluate tokens).context.limit = context.limit :=
  evaluate_keeps (fun reached => reached.limit = context.limit) (fun _ _ same => same)
    (fun _ _ same => same) (fun _ _ same => same) (fun _ same => same) tokens rfl

/-- What can be asked of a session. -/
inductive Request where
  | evaluate (tokens : List Token)
  | register (name : String) (map : DiceMap)
  | setLimit (limit : Nat)

namespace Context

variable {σ : Type} [Roller σ]

/-- The context in which a request leaves a session. -/
def serve (context : Context σ) : Request → Context σ
  | .evaluate tokens => (context.evaluate tokens).context
  | .register name map =>
      let registered : Outcome σ ReadError (Option DiceMap) := context.register name map
      registered.context
  | .setLimit limit => context.setLimit (some limit)

def serveAll (context : Context σ) (requests : List Request) : Context σ :=
  requests.foldl serve context

end Context

end DiceLang
