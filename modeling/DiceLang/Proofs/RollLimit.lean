import DiceLang.Proofs.Errors
import DiceLang.Proofs.Runs

/-!
# A limit on rolls is exact and otherwise invisible

The same tokens are evaluated twice in one context, without a limit and with one. As long as the
unlimited run has charged no more dice than the limit allows, the two runs agree in everything but
the limit itself. The first charge beyond the limit ends the limited run, and since the counter
never goes down, the unlimited run then ends with a counter beyond the limit.
-/

namespace DiceLang

set_option autoImplicit false

variable {σ ε α β ρ : Type}

/-- A context without a limit, whose counter has not run over. -/
structure Context.Unlimited (context : Context σ) : Prop where
  unlimited : context.limit = none
  bounded : context.rolls ≤ Budget.counterLimit

/-- The counter has passed `least` and has not run over. -/
def Context.CountedFrom (least : Nat) (context : Context σ) : Prop :=
  least ≤ context.rolls ∧ context.rolls ≤ Budget.counterLimit

theorem Context.counted_from_charge {least : Nat} (context : Context σ) (count : Nat)
    (counted : context.CountedFrom least) : (context.charge count).CountedFrom least := by
  obtain ⟨passed, bounded⟩ := counted
  have spent : (context.charge count).rolls =
      min (context.rolls + count) Budget.counterLimit := rfl
  unfold CountedFrom
  omega

theorem Plan.run_counted_from [Roller σ] (plan : Plan ε α) {least : Nat} {context : Context σ}
    (counted : context.CountedFrom least) : (plan.run context).context.CountedFrom least :=
  plan.run_keeps (Context.CountedFrom least) Context.counted_from_charge
    (fun _ _ counted => counted) counted

theorem Context.perform_rolls_counted_from [Roller σ] (rolls : List Roll) (index : Nat)
    {least : Nat} {context : Context σ} (counted : context.CountedFrom least) :
    (performRolls rolls index context).context.CountedFrom least :=
  perform_rolls_keeps (CountedFrom least) counted_from_charge (fun _ _ counted => counted)
    (fun _ _ counted => counted) rolls index counted

namespace Outcome

def withLimit (limit : Option Nat) (outcome : Outcome σ ε α) : Outcome σ ε α :=
  { outcome with context := outcome.context.setLimit limit }

/-- How the outcome under a limit follows from the outcome without one. -/
structure LimitedTo (limit : Nat) (refusals : ε → Prop) (free limited : Outcome σ ε α) :
    Prop where
  within : free.context.rolls ≤ limit → limited = free.withLimit (some limit)
  beyond : limit < free.context.rolls →
    ∃ error, limited.result = .error error ∧ refusals error

namespace LimitedTo

variable {limit : Nat} {refusals : ε → Prop} {free limited : Outcome σ ε α}

theorem after (agree : LimitedTo limit refusals free limited) (events : List Event) :
    LimitedTo limit refusals (free.after events) (limited.after events) := by
  constructor
  · intro within
    rw [agree.within within]
    rfl
  · intro beyond
    exact agree.beyond beyond

theorem map (agree : LimitedTo limit refusals free limited) (f : α → β) :
    LimitedTo limit refusals (free.map f) (limited.map f) := by
  constructor
  · intro within
    rw [agree.within within]
    rfl
  · intro beyond
    obtain ⟨error, failed, refused⟩ := agree.beyond beyond
    have stopped : (limited.map f).result = .error error := by
      rw [Outcome.map, failed]
      rfl
    exact ⟨error, stopped, refused⟩

theorem of_within (same : limited = free.withLimit (some limit))
    (within : free.context.rolls ≤ limit) : LimitedTo limit refusals free limited := by
  constructor
  · intro _
    exact same
  · intro beyond
    omega

/-- Once the limited run has been refused and the counter has passed the limit, it does not matter
what the unlimited run goes on to do. -/
theorem of_refused {error : ε} (failed : limited.result = .error error)
    (refused : refusals error) (passed : limit < free.context.rolls) :
    LimitedTo limit refusals free limited := by
  constructor
  · intro within
    omega
  · intro _
    exact ⟨error, failed, refused⟩

theorem andThen {next : α → Context σ → Outcome σ ε β}
    (agree : LimitedTo limit refusals free limited) (free' : free.context.Unlimited)
    (counted : ∀ a context least, context.CountedFrom least →
      (next a context).context.CountedFrom least)
    (onward : ∀ a context, context.Unlimited → context.rolls ≤ limit →
      LimitedTo limit refusals (next a context) (next a (context.setLimit (some limit)))) :
    LimitedTo limit refusals (free.andThen next) (limited.andThen next) := by
  by_cases within : free.context.rolls ≤ limit
  · rw [agree.within within]
    unfold Outcome.andThen withLimit
    dsimp only
    split
    · exact (onward _ _ free' within).after _
    · exact .of_within rfl within
  · obtain ⟨error, failed, refused⟩ := agree.beyond (Nat.lt_of_not_le within)
    have passed : (free.andThen next).context.CountedFrom free.context.rolls :=
      and_then_keeps (Context.CountedFrom free.context.rolls)
        ⟨Nat.le_refl _, free'.bounded⟩ fun a context => counted a context _
    have stopped : (limited.andThen next).result = .error error := by
      rw [Outcome.andThen, failed]
    exact .of_refused stopped refused (Nat.lt_of_lt_of_le (Nat.lt_of_not_le within) passed.1)

end LimitedTo

end Outcome

open Outcome (LimitedTo)

/-- One request for dice. Either both runs are granted the same dice, or the limited run is
refused and the counter of the other one has passed the limit for good. -/
theorem Context.ask_limited {limit : Nat} {refusals : ε → Prop} {context : Context σ}
    {count : Nat} {draw : σ → ρ × σ} {refusal : ε} {granted : ρ → Context σ → Outcome σ ε α}
    (free : context.Unlimited) (refused : refusals refusal)
    (counted : ∀ faces context least, context.CountedFrom least →
      (granted faces context).context.CountedFrom least)
    (onward : ∀ faces (context : Context σ), context.Unlimited → context.rolls ≤ limit →
      LimitedTo limit refusals (granted faces context)
        (granted faces (context.setLimit (some limit)))) :
    LimitedTo limit refusals
      (context.ask count draw (fun charged => ⟨.error refusal, charged, []⟩) granted)
      ((context.setLimit (some limit)).ask count draw
        (fun charged => ⟨.error refusal, charged, []⟩) granted) := by
  obtain ⟨unlimited, bounded⟩ := free
  have freeGranted : ¬(context.budget.charge count).isOverdrawn = true := by
    rw [Budget.is_overdrawn_iff]
    rintro ⟨other, limited, _⟩
    cases unlimited.symm.trans limited
  have limitedRefused : ((context.setLimit (some limit)).budget.charge count).isOverdrawn = true ↔
      limit < (context.charge count).rolls := by
    rw [Budget.is_overdrawn_iff]
    exact ⟨fun ⟨_, same, beyond⟩ => Option.some.inj same ▸ beyond, fun beyond => ⟨limit, rfl, beyond⟩⟩
  have chargedBounded : (context.charge count).rolls ≤ Budget.counterLimit := Nat.min_le_right _ _
  rw [Context.ask, if_neg freeGranted, Context.ask]
  by_cases beyond : limit < (context.charge count).rolls
  · rw [if_pos (limitedRefused.mpr beyond)]
    have passed := counted (draw context.roller).1
      ((context.charge count).withRoller (draw context.roller).2) (context.charge count).rolls
      ⟨Nat.le_refl _, chargedBounded⟩
    exact .of_refused rfl refused (Nat.lt_of_lt_of_le beyond passed.1)
  · rw [if_neg (mt limitedRefused.mp beyond)]
    exact onward _ _ ⟨unlimited, chargedBounded⟩ (Nat.le_of_not_lt beyond)

theorem Plan.run_limited [Roller σ] {limit : Nat} {refusals failures : ε → Prop}
    {plan : Plan ε α} (errors : plan.ErrorsIn refusals failures) {context : Context σ}
    (free : context.Unlimited) (within : context.rolls ≤ limit) :
    LimitedTo limit refusals (plan.run context) (plan.run (context.setLimit (some limit))) := by
  induction plan generalizing context with
  | done a => exact .of_within rfl within
  | fail e => exact .of_within rfl within
  | rollMany die count refusal next ih =>
      rw [run_roll_many, run_roll_many]
      exact Context.ask_limited free errors.1 (fun faces _ _ => (next faces).run_counted_from)
        fun faces _ => ih faces (errors.2 faces)
  | rollOne die refusal next ih =>
      rw [run_roll_one, run_roll_one]
      exact Context.ask_limited free errors.1 (fun face _ _ => (next face).run_counted_from)
        fun face _ => ih face (errors.2 face)
  | note event rest ih => exact (ih errors free within).after [event]

theorem Plan.run_unlimited [Roller σ] (plan : Plan ε α) {context : Context σ}
    (free : context.Unlimited) : (plan.run context).context.Unlimited := by
  have unlimited := plan.run_keeps (fun context => context.limit = none) (fun _ _ same => same)
    (fun _ _ same => same) free.unlimited
  have counted := plan.run_counted_from ⟨Nat.le_refl context.rolls, free.bounded⟩
  exact ⟨unlimited, counted.2⟩

namespace Context

variable [Roller σ]

theorem perform_rolls_unlimited (rolls : List Roll) (index : Nat) {context : Context σ}
    (free : context.Unlimited) : (performRolls rolls index context).context.Unlimited := by
  have unlimited := perform_rolls_keeps (fun context : Context σ => context.limit = none)
    (fun _ _ same => same) (fun _ _ same => same) (fun _ _ same => same) rolls index
    free.unlimited
  have counted := perform_rolls_counted_from rolls index ⟨Nat.le_refl context.rolls, free.bounded⟩
  exact ⟨unlimited, counted.2⟩

theorem perform_rolls_limited {limit : Nat} (rolls : List Roll) (index : Nat)
    {context : Context σ} (free : context.Unlimited) (within : context.rolls ≤ limit) :
    LimitedTo limit ReadError.IsRefusal (performRolls rolls index context)
      (performRolls rolls index (context.setLimit (some limit))) := by
  induction rolls generalizing index context with
  | nil => exact .of_within rfl within
  | cons roll rest ih =>
      cases roll with
      | diceMap name map =>
          have registered : (context.withMaps (context.maps.register name map)).Unlimited :=
            ⟨free.unlimited, free.bounded⟩
          exact (ih index registered within).after [.registered name map.size]
      | expression expr =>
          have agree := Plan.run_limited (expr.eval_errors context.maps) free within
          have freeAfter := (expr.eval context.maps).run_unlimited free
          rw [perform_expression, perform_expression]
          apply agree.andThen freeAfter
          · intro value context least counted
            exact perform_rolls_counted_from rest (index + 1) counted
          · intro value context free within
            exact ((ih (index + 1) free within).map _).after _

theorem perform_limited {limit : Nat} (reading : Reading) {context : Context σ}
    (free : context.Unlimited) (within : context.rolls ≤ limit) :
    LimitedTo limit ReadError.IsRefusal (context.perform reading)
      ((context.setLimit (some limit)).perform reading) := by
  have agree := perform_rolls_limited reading.rolls 0 free within
  cases found : reading.fault with
  | none =>
      rw [perform_of_clean _ found, perform_of_clean _ found]
      exact agree
  | some fault =>
      rw [perform_of_fault _ found, perform_of_fault _ found]
      apply agree.andThen (perform_rolls_unlimited reading.rolls 0 free)
      · intro values context least counted
        exact counted
      · intro values context free within
        exact .of_within rfl within

/-- If the tokens are evaluated without a limit and the counter ends at no more than `limit`, then
under this limit everything is the same; if it ends beyond, then under the limit dice are
refused. -/
theorem limit_exact (context : Context σ) (tokens : List Token) (nonempty : tokens ≠ [])
    (limit : Nat) :
    let free := (context.setLimit none).evaluate tokens
    let limited := (context.setLimit (some limit)).evaluate tokens
    (free.context.rolls ≤ limit →
      limited.result = free.result ∧ limited.events = free.events ∧
        limited.context = free.context.setLimit (some limit)) ∧
    (limit < free.context.rolls →
      ∃ position, limited.result = .error ⟨.roll .tooManyRolls, .ended, position⟩) := by
  intro free limited
  have fresh : (context.setLimit none).resetRolls.Unlimited := ⟨rfl, Nat.zero_le _⟩
  have agree : LimitedTo limit ReadError.IsRefusal free limited := by
    have performed := perform_limited (.ofTokens tokens) fresh (Nat.zero_le limit)
    rw [show free = _ from evaluate_of_nonempty _ nonempty,
      show limited = _ from evaluate_of_nonempty _ nonempty]
    exact performed.map Value.gather
  constructor
  · intro within
    rw [agree.within within]
    exact ⟨rfl, rfl, rfl⟩
  · intro beyond
    obtain ⟨error, failed, position, rfl⟩ := agree.beyond beyond
    exact ⟨position, failed⟩

/-- Three dice, with a limit that is just enough and with one that is not. -/
theorem limit_exact_three_dice :
    let context : Context Replay := .new (.ofArray #[4, 1, 6]) none
    let tokens : List Token :=
      [.literal (.number 3), .operator .dice "d", .literal (.number 6)]
    let free := (context.setLimit none).evaluate tokens
    let enough := (context.setLimit (some 3)).evaluate tokens
    let short := (context.setLimit (some 2)).evaluate tokens
    tokens ≠ [] ∧ free.context.rolls = 3 ∧
      enough.result = free.result ∧ enough.context = free.context.setLimit (some 3) ∧
      ∃ position, short.result = .error ⟨.roll .tooManyRolls, .ended, position⟩ := by
  intro context tokens free enough short
  have nonempty : tokens ≠ [] := List.cons_ne_nil _ _
  have three : free.context.rolls = 3 := by decide +kernel
  have same := (limit_exact context tokens nonempty 3).1 (Nat.le_of_eq three)
  have beyond : 2 < free.context.rolls := by
    rw [three]
    decide
  exact ⟨nonempty, three, same.1, same.2.2, (limit_exact context tokens nonempty 2).2 beyond⟩

end Context

end DiceLang
