import DiceLang.Proofs.Errors
import DiceLang.Proofs.Runs

/-!
# The counter tells how many dice were drawn

Dice are charged before they are drawn, and they are drawn by the roller, which knows nothing of
the budget. To compare the two, the roller is wrapped in one that counts what it draws. Wrapping
changes nothing else, so the counts belong to the run of the roller itself.

After every run that was not refused dice, the counter holds the number of dice drawn, as far as it
can. A refused charge is on the counter, but nothing of it was drawn.
-/

namespace DiceLang

set_option autoImplicit false

variable {σ τ ε α β ρ : Type}

/-- The second roller draws in the state `view` of a state as the first one does in the state
itself. -/
def DrawsAlike [Roller σ] [Roller τ] (view : σ → τ) : Prop :=
  ∀ draw die roller, Roller.draw draw die (view roller) =
    ((Roller.draw draw die roller).1, view (Roller.draw draw die roller).2)

namespace DrawsAlike

variable [Roller σ] [Roller τ] {view : σ → τ}

theorem draw_onto (alike : DrawsAlike view) (die : Die) (count : Nat) (drawn : List UInt32)
    (roller : σ) :
    Roller.drawOnto die count drawn (view roller) =
      ((Roller.drawOnto die count drawn roller).1,
        view (Roller.drawOnto die count drawn roller).2) := by
  induction count generalizing drawn roller with
  | zero => rfl
  | succ count ih =>
      rw [Roller.drawOnto, Roller.drawOnto, alike]
      exact ih _ _

theorem draw_batch (alike : DrawsAlike view) (die : Die) (count : Nat) (roller : σ) :
    Roller.drawBatch die count (view roller) =
      ((Roller.drawBatch die count roller).1, view (Roller.drawBatch die count roller).2) := by
  rw [Roller.drawBatch, alike.draw_onto]
  rfl

end DrawsAlike

namespace Context

def mapRoller (view : σ → τ) (context : Context σ) : Context τ :=
  context.withRoller (view context.roller)

end Context

namespace Outcome

def mapRoller (view : σ → τ) (outcome : Outcome σ ε α) : Outcome τ ε α :=
  ⟨outcome.result, outcome.context.mapRoller view, outcome.events⟩

theorem map_roller_and_then {view : σ → τ} {first : Outcome σ ε α}
    {next : α → Context σ → Outcome σ ε β} {next' : α → Context τ → Outcome τ ε β}
    (same : ∀ a context, next' a (context.mapRoller view) = (next a context).mapRoller view) :
    (first.mapRoller view).andThen next' = (first.andThen next).mapRoller view := by
  rw [andThen, andThen, mapRoller]
  cases first.result with
  | ok a =>
      dsimp only
      rw [same]
      rfl
  | error error => rfl

end Outcome

theorem Context.ask_map_roller {view : σ → τ} (context : Context σ) {count : Nat}
    {draw : σ → ρ × σ} {draw' : τ → ρ × τ}
    (alike : ∀ roller, draw' (view roller) = ((draw roller).1, view (draw roller).2))
    {refusal : ε} {granted : ρ → Context σ → Outcome σ ε α}
    {granted' : ρ → Context τ → Outcome τ ε α}
    (same : ∀ faces context,
      granted' faces (context.mapRoller view) = (granted faces context).mapRoller view) :
    (context.mapRoller view).ask count draw' (fun charged => ⟨.error refusal, charged, []⟩)
        granted' =
      (context.ask count draw (fun charged => ⟨.error refusal, charged, []⟩) granted).mapRoller
        view := by
  have drawn : draw' (context.mapRoller view).roller =
      ((draw context.roller).1, view (draw context.roller).2) := alike context.roller
  have sameBudget : (context.mapRoller view).budget = context.budget := rfl
  rw [ask, ask, drawn, sameBudget]
  split
  · rfl
  · exact same (draw context.roller).1 ((context.charge count).withRoller (draw context.roller).2)

section MapRoller

variable [Roller σ] [Roller τ] {view : σ → τ}

theorem Plan.run_map_roller (alike : DrawsAlike view) (plan : Plan ε α) (context : Context σ) :
    plan.run (context.mapRoller view) = (plan.run context).mapRoller view := by
  induction plan generalizing context with
  | done a => rfl
  | fail e => rfl
  | rollMany die count refusal next ih =>
      rw [run_roll_many, run_roll_many]
      exact context.ask_map_roller (alike.draw_batch die count) ih
  | rollOne die refusal next ih =>
      rw [run_roll_one, run_roll_one]
      exact context.ask_map_roller (alike .single die) ih
  | note event rest ih =>
      rw [run, ih, run]
      rfl

theorem Context.perform_rolls_map_roller (alike : DrawsAlike view) (rolls : List Roll)
    (index : Nat) (context : Context σ) :
    performRolls rolls index (context.mapRoller view) =
      (performRolls rolls index context).mapRoller view := by
  induction rolls generalizing index context with
  | nil => rfl
  | cons roll rest ih =>
      cases roll with
      | diceMap name map =>
          have later := ih index (context.withMaps (context.maps.register name map))
          exact congrArg (Outcome.after · [.registered name map.size]) later
      | expression expr =>
          have sameMaps : (context.mapRoller view).maps = context.maps := rfl
          rw [perform_expression, perform_expression, sameMaps, Plan.run_map_roller alike]
          apply Outcome.map_roller_and_then
          intro value context
          rw [ih]
          rfl

theorem Context.perform_map_roller (alike : DrawsAlike view) (context : Context σ)
    (reading : Reading) :
    (context.mapRoller view).perform reading = (context.perform reading).mapRoller view := by
  cases found : reading.fault with
  | none =>
      rw [perform_of_clean _ found, perform_of_clean _ found]
      exact perform_rolls_map_roller alike reading.rolls 0 context
  | some fault =>
      rw [perform_of_fault _ found, perform_of_fault _ found, perform_rolls_map_roller alike]
      apply Outcome.map_roller_and_then
      intro values context
      rfl

theorem Context.evaluate_map_roller (alike : DrawsAlike view) (context : Context σ)
    (tokens : List Token) :
    (context.mapRoller view).evaluate tokens = (context.evaluate tokens).mapRoller view := by
  by_cases empty : tokens = []
  · rw [empty]
    rfl
  · have performed := perform_map_roller alike context.resetRolls (.ofTokens tokens)
    rw [evaluate_of_nonempty _ empty, evaluate_of_nonempty _ empty]
    exact congrArg (Outcome.map Value.gather) performed

end MapRoller

namespace Counted

variable [Roller σ]

theorem roller_draws_alike : DrawsAlike (Counted.roller : Counted σ → σ) :=
  fun _ _ _ => rfl

theorem draw_onto_drawn (die : Die) (count : Nat) (faces : List UInt32) (counted : Counted σ) :
    (Roller.drawOnto die count faces counted).2.drawn = counted.drawn + count := by
  induction count generalizing faces counted with
  | zero => rfl
  | succ count ih =>
      rw [Roller.drawOnto, ih]
      show counted.drawn + 1 + count = counted.drawn + (count + 1)
      omega

theorem draw_batch_drawn (die : Die) (count : Nat) (counted : Counted σ) :
    (Roller.drawBatch die count counted).2.drawn = counted.drawn + count :=
  draw_onto_drawn die count [] counted

end Counted

/-- The counter holds the number of dice drawn, as far as it can, and no limit has been passed. -/
structure Context.Honest (context : Context (Counted σ)) : Prop where
  counts : context.rolls = min context.roller.drawn Budget.counterLimit
  covered : ∀ limit, context.limit = some limit → context.rolls ≤ limit

/-- The counter has passed the limit, but the dice drawn have not. -/
def Context.Refused (context : Context (Counted σ)) : Prop :=
  ∃ limit, context.limit = some limit ∧ context.roller.drawn ≤ limit ∧ limit < context.rolls

/-- A charge that is refused has passed a limit that the dice drawn so far have not. -/
theorem Context.refused_of_overdrawn {context : Context (Counted σ)} (honest : context.Honest)
    {count : Nat} (overdrawn : (context.budget.charge count).isOverdrawn = true) :
    (context.charge count).Refused := by
  obtain ⟨limit, limited, passed⟩ := (Budget.is_overdrawn_iff _).mp overdrawn
  have counts := honest.counts
  have covered := honest.covered limit limited
  have charged : limit < min (context.rolls + count) Budget.counterLimit := passed
  refine ⟨limit, limited, ?_, passed⟩
  show context.roller.drawn ≤ limit
  omega

theorem Context.honest_of_granted {context : Context (Counted σ)} (honest : context.Honest)
    {count : Nat} (granted : ¬(context.budget.charge count).isOverdrawn = true)
    {roller : Counted σ} (drawn : roller.drawn = context.roller.drawn + count) :
    ((context.charge count).withRoller roller).Honest := by
  have counts := honest.counts
  constructor
  · show min (context.rolls + count) Budget.counterLimit =
      min roller.drawn Budget.counterLimit
    omega
  · intro limit limited
    apply Nat.le_of_not_lt
    intro passed
    exact granted ((Budget.is_overdrawn_iff _).mpr ⟨limit, limited, passed⟩)

namespace Outcome

/-- The counter is honest, unless dice were refused; then it has passed a limit that the dice drawn
have not. -/
def Accounted (tooMany : ε → Prop) (outcome : Outcome (Counted σ) ε α) : Prop :=
  match outcome.result with
  | .ok _ => outcome.context.Honest
  | .error error =>
      (¬tooMany error ∧ outcome.context.Honest) ∨ (tooMany error ∧ outcome.context.Refused)

namespace Accounted

variable {tooMany : ε → Prop} {outcome : Outcome (Counted σ) ε α}

theorem after (accounted : Accounted tooMany outcome) (events : List Event) :
    Accounted tooMany (outcome.after events) :=
  accounted

theorem map (accounted : Accounted tooMany outcome) (f : α → β) :
    Accounted tooMany (outcome.map f) := by
  unfold Accounted Outcome.map at *
  cases result : outcome.result with
  | ok a =>
      rw [result] at accounted
      exact accounted
  | error error =>
      rw [result] at accounted
      exact accounted

theorem andThen {next : α → Context (Counted σ) → Outcome (Counted σ) ε β}
    (accounted : Accounted tooMany outcome)
    (onward : ∀ a context, context.Honest → Accounted tooMany (next a context)) :
    Accounted tooMany (outcome.andThen next) := by
  unfold Outcome.andThen
  unfold Accounted at accounted
  split
  · rename_i a gives
    rw [gives] at accounted
    exact (onward a outcome.context accounted).after outcome.events
  · rename_i error failed
    rw [failed] at accounted
    exact accounted

end Accounted

end Outcome

open Outcome (Accounted)

theorem Context.ask_accounted {tooMany : ε → Prop} {context : Context (Counted σ)}
    (honest : context.Honest) {count : Nat} {draw : Counted σ → ρ × Counted σ}
    (drawn : ∀ roller, (draw roller).2.drawn = roller.drawn + count) {refusal : ε}
    (refused : tooMany refusal) {granted : ρ → Context (Counted σ) → Outcome (Counted σ) ε α}
    (onward : ∀ faces context, context.Honest → Accounted tooMany (granted faces context)) :
    Accounted tooMany
      (context.ask count draw (fun charged => ⟨.error refusal, charged, []⟩) granted) := by
  unfold ask
  split
  · rename_i overdrawn
    exact .inr ⟨refused, refused_of_overdrawn honest overdrawn⟩
  · rename_i notOverdrawn
    exact onward _ _ (honest_of_granted honest notOverdrawn (drawn context.roller))

section Accounts

variable [Roller σ]

theorem Plan.run_accounted {tooMany refusals failures : ε → Prop}
    (refusal : ∀ error, refusals error → tooMany error)
    (failure : ∀ error, failures error → ¬tooMany error) {plan : Plan ε α}
    (errors : plan.ErrorsIn refusals failures) {context : Context (Counted σ)}
    (honest : context.Honest) : Accounted tooMany (plan.run context) := by
  induction plan generalizing context with
  | done a => exact honest
  | fail e => exact .inl ⟨failure e errors, honest⟩
  | rollMany die count refused next ih =>
      rw [run_roll_many]
      exact Context.ask_accounted honest (Counted.draw_batch_drawn die count)
        (refusal refused errors.1) fun faces _ => ih faces (errors.2 faces)
  | rollOne die refused next ih =>
      rw [run_roll_one]
      exact Context.ask_accounted honest (fun _ => rfl) (refusal refused errors.1)
        fun face _ => ih face (errors.2 face)
  | note event rest ih => exact (ih errors honest).after [event]

namespace Context

theorem perform_rolls_accounted (rolls : List Roll) (index : Nat)
    {context : Context (Counted σ)} (honest : context.Honest) :
    Accounted ReadError.IsTooManyRolls (performRolls rolls index context) := by
  induction rolls generalizing index context with
  | nil => exact honest
  | cons roll rest ih =>
      cases roll with
      | diceMap name map =>
          have registered : (context.withMaps (context.maps.register name map)).Honest :=
            ⟨honest.counts, honest.covered⟩
          exact (ih index registered).after [.registered name map.size]
      | expression expr =>
          have ran := Plan.run_accounted (fun _ => ReadError.IsRefusal.is_too_many_rolls)
            (fun _ failure => failure) (expr.eval_errors context.maps) honest
          rw [perform_expression]
          apply ran.andThen
          intro value context honest
          exact ((ih (index + 1) honest).map _).after _

theorem perform_accounted (tokens : List Token) {context : Context (Counted σ)}
    (honest : context.Honest) :
    Accounted ReadError.IsTooManyRolls (context.perform (.ofTokens tokens)) := by
  have performed := perform_rolls_accounted (Reading.ofTokens tokens).rolls 0 honest
  cases found : (Reading.ofTokens tokens).fault with
  | none =>
      rw [perform_of_clean _ found]
      exact performed
  | some fault =>
      rw [perform_of_fault _ found]
      apply performed.andThen
      intro values context honest
      exact .inl ⟨Reading.go_on_fault_structural found _, honest⟩

/-- The same context with a roller that has counted no dice yet. -/
def counted (context : Context σ) : Context (Counted σ) :=
  context.withRoller ⟨context.roller, 0⟩

theorem evaluate_counted_accounted (context : Context σ) {tokens : List Token}
    (nonempty : tokens ≠ []) :
    Accounted ReadError.IsTooManyRolls (context.counted.evaluate tokens) := by
  have fresh : context.counted.resetRolls.Honest := ⟨rfl, fun _ _ => Nat.zero_le _⟩
  rw [evaluate_of_nonempty _ nonempty]
  exact (perform_accounted tokens fresh).map Value.gather

/-- The dice that the roller draws while the tokens are evaluated. -/
def diceDrawn (context : Context σ) (tokens : List Token) : Nat :=
  (context.counted.evaluate tokens).context.roller.drawn

theorem evaluate_counted (context : Context σ) (tokens : List Token) :
    (context.counted.evaluate tokens).mapRoller Counted.roller = context.evaluate tokens :=
  (evaluate_map_roller Counted.roller_draws_alike context.counted tokens).symm

/-- The dice drawn and the counter after a list that is not empty: whether dice were refused, and
else what the counter holds. -/
theorem evaluate_accounted (context : Context σ) {tokens : List Token} (nonempty : tokens ≠ []) :
    ((∀ error, (context.evaluate tokens).result = .error error → ¬error.IsTooManyRolls) →
      (context.evaluate tokens).context.rolls =
          min (context.diceDrawn tokens) Budget.counterLimit ∧
        ∀ limit, context.limit = some limit → (context.evaluate tokens).context.rolls ≤ limit) ∧
    ∀ error, (context.evaluate tokens).result = .error error → error.IsTooManyRolls →
      ∃ limit, context.limit = some limit ∧ context.diceDrawn tokens ≤ limit ∧
        limit < (context.evaluate tokens).context.rolls := by
  have accounted := context.evaluate_counted_accounted nonempty
  have sameLimit : (context.counted.evaluate tokens).context.limit = context.limit :=
    evaluate_limit context.counted tokens
  rw [← evaluate_counted context tokens]
  unfold Accounted at accounted
  unfold diceDrawn
  rw [← sameLimit]
  cases result : (context.counted.evaluate tokens).result with
  | ok value =>
      rw [result] at accounted
      constructor
      · intro _
        exact ⟨accounted.counts, accounted.covered⟩
      · intro error failed
        cases result.symm.trans failed
  | error error =>
      rw [result] at accounted
      rcases accounted with ⟨failure, honest⟩ | ⟨refusal, refused⟩
      · constructor
        · intro _
          exact ⟨honest.counts, honest.covered⟩
        · intro other failed refusal
          cases result.symm.trans failed
          exact absurd refusal failure
      · constructor
        · intro none
          exact absurd refusal (none error result)
        · intro other _ _
          exact refused

theorem dice_drawn_le_limit (context : Context σ) (tokens : List Token) {limit : Nat}
    (limited : context.limit = some limit) (below : limit < Budget.counterLimit) :
    context.diceDrawn tokens ≤ limit := by
  by_cases empty : tokens = []
  · rw [empty]
    exact Nat.zero_le limit
  · obtain ⟨honest, refused⟩ := context.evaluate_accounted empty
    by_cases tooMany : ∃ error, (context.evaluate tokens).result = .error error ∧
        error.IsTooManyRolls
    · obtain ⟨error, failed, refusal⟩ := tooMany
      obtain ⟨other, otherLimited, covered, _⟩ := refused error failed refusal
      cases limited.symm.trans otherLimited
      exact covered
    · obtain ⟨counts, covered⟩ := honest fun error failed refusal =>
        tooMany ⟨error, failed, refusal⟩
      have within := covered limit limited
      omega

/-- After a list that was not refused dice the counter tells how many were drawn, and it has not
passed the limit; a list that was refused dice has drawn no more than the limit, which the
counter has passed. In a session, whatever came before, no list draws more dice than its limit
allows. -/
theorem counter_honest (context : Context σ) :
    (∀ tokens, tokens ≠ [] →
      let outcome := context.evaluate tokens
      let drawn := context.diceDrawn tokens
      ((∀ error, outcome.result = .error error → ¬error.IsTooManyRolls) →
        outcome.context.rolls = min drawn Budget.counterLimit ∧
          ∀ limit, context.limit = some limit → outcome.context.rolls ≤ limit) ∧
      ∀ error, outcome.result = .error error → error.IsTooManyRolls →
        ∃ limit, context.limit = some limit ∧ drawn ≤ limit ∧ limit < outcome.context.rolls) ∧
    ∀ (earlier : List Request) (tokens : List Token) (limit : Nat),
      (context.serveAll earlier).limit = some limit → limit < Budget.counterLimit →
        (context.serveAll earlier).diceDrawn tokens ≤ limit := by
  constructor
  · intro tokens nonempty
    exact context.evaluate_accounted nonempty
  · intro earlier tokens limit limited below
    exact (context.serveAll earlier).dice_drawn_le_limit tokens limited below

/-- Three dice under a limit of three, four dice under the same limit, and a session that has
lowered the limit after rolling. -/
theorem counter_honest_around_limit :
    let dice (count : Int) : List Token :=
      [.literal (.number count), .operator .dice "d", .literal (.number 6)]
    let context : Context Replay := .new (.ofArray #[4, 6, 1]) (some 3)
    let lowered := context.serveAll [.evaluate (dice 3), .setLimit 1]
    ((context.evaluate (dice 3)).context.rolls =
        min (context.diceDrawn (dice 3)) Budget.counterLimit ∧
      (context.evaluate (dice 3)).context.rolls ≤ 3) ∧
    (∃ limit, context.limit = some limit ∧ context.diceDrawn (dice 4) ≤ limit ∧
      limit < (context.evaluate (dice 4)).context.rolls) ∧
    lowered.diceDrawn (dice 2) ≤ 1 := by
  intro dice context lowered
  have nonempty (count : Int) : dice count ≠ [] := List.cons_ne_nil _ _
  have gives : (context.evaluate (dice 3)).result.isOk = true := by decide +kernel
  have refuses : ∃ error, (context.evaluate (dice 4)).result = .error error ∧
      error.IsTooManyRolls := by
    have tooMany : (match (context.evaluate (dice 4)).result with
        | .ok _ => none
        | .error error => some error.problem) = some (.roll .tooManyRolls) := by decide +kernel
    cases result : (context.evaluate (dice 4)).result with
    | ok value =>
        rw [result] at tooMany
        cases tooMany
    | error error =>
        rw [result] at tooMany
        exact ⟨error, rfl, Option.some.inj tooMany⟩
  obtain ⟨perList, perSession⟩ := counter_honest context
  constructor
  · obtain ⟨counts, covered⟩ := (perList (dice 3) (nonempty 3)).1 fun error failed => by
      rw [failed] at gives
      cases gives
    exact ⟨counts, covered 3 rfl⟩
  constructor
  · obtain ⟨error, failed, tooMany⟩ := refuses
    exact (perList (dice 4) (nonempty 4)).2 error failed tooMany
  · exact perSession [.evaluate (dice 3), .setLimit 1] (dice 2) 1 rfl (by decide)

end Context

end Accounts

end DiceLang
