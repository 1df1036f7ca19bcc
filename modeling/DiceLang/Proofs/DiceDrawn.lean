import DiceLang.Proofs.Reading.Interrupted
import DiceLang.Proofs.RollCounter

/-!
# An outcome depends on the dice that were drawn

A roller is looked at only through the dice that it is asked for. A list that is replayed with
other faces ends as before if the other faces begin with those that were drawn, however the
sequences go on. A list without dice asks for none, so it ends alike with every roller and under
every limit.
-/

namespace DiceLang

set_option autoImplicit false

variable {σ τ ε α β ρ : Type}

namespace Replay

/-- The same place in another sequence. -/
def withFaces (faces : Nat → UInt32) (replay : Replay) : Replay :=
  { replay with faces }

theorem draw_onto_eq (die : Die) (count : Nat) (drawn : List UInt32) (replay : Replay) :
    Roller.drawOnto die count drawn replay =
      (((List.range' replay.drawn count).map replay.faces).reverse ++ drawn,
        ⟨replay.faces, replay.drawn + count⟩) := by
  induction count generalizing drawn replay with
  | zero => rfl
  | succ count ih =>
      rw [Roller.drawOnto]
      refine (ih _ _).trans ?_
      simp only [List.range'_succ, List.map_cons, List.reverse_cons, List.append_assoc,
        List.singleton_append]
      rw [Nat.add_right_comm, Nat.add_assoc]

theorem draw_batch_eq (die : Die) (count : Nat) (replay : Replay) :
    Roller.drawBatch die count replay =
      ((List.range' replay.drawn count).map replay.faces,
        ⟨replay.faces, replay.drawn + count⟩) := by
  rw [Roller.drawBatch, draw_onto_eq, List.append_nil]
  simp only [List.reverse_reverse]

/-- The next `count` faces are read, and none beyond them. -/
structure Reads (draw : Replay → ρ × Replay) (count : Nat) : Prop where
  moves : ∀ replay, (draw replay).2 = ⟨replay.faces, replay.drawn + count⟩
  alike : ∀ replay faces,
    (∀ index, replay.drawn ≤ index → index < replay.drawn + count →
      faces index = replay.faces index) →
    (draw (replay.withFaces faces)).1 = (draw replay).1

theorem reads_single (die : Die) : Reads (Roller.draw .single die) 1 := by
  constructor
  · intro replay
    rfl
  · intro replay faces agree
    exact agree replay.drawn (Nat.le_refl _) (Nat.lt_succ_self _)

theorem reads_batch (die : Die) (count : Nat) : Reads (Roller.drawBatch die count) count := by
  constructor
  · intro replay
    rw [draw_batch_eq]
  · intro replay faces agree
    rw [draw_batch_eq, draw_batch_eq]
    apply List.map_congr_left
    intro index member
    obtain ⟨lower, upper⟩ := List.mem_range'_1.mp member
    exact agree index lower upper

end Replay

namespace Outcome

/-- The first outcome comes about when `faces` are replayed from `start` on. If `others` agree with
them on what was drawn, replaying those leads to the second one, which differs in nothing but what
is left to be drawn. -/
structure Replayed (faces others : Nat → UInt32) (start : Nat) (first second : Outcome Replay ε α) :
    Prop where
  kept : first.context.roller.faces = faces
  onward : start ≤ first.context.roller.drawn
  alike : (∀ index, start ≤ index → index < first.context.roller.drawn →
    others index = faces index) → second = first.mapRoller (.withFaces others)

namespace Replayed

variable {faces others : Nat → UInt32} {start : Nat} {first second : Outcome Replay ε α}

theorem after (replayed : Replayed faces others start first second) (events : List Event) :
    Replayed faces others start (first.after events) (second.after events) := by
  refine ⟨replayed.kept, replayed.onward, ?_⟩
  intro agree
  rw [replayed.alike agree]
  rfl

theorem map (replayed : Replayed faces others start first second) (f : α → β) :
    Replayed faces others start (first.map f) (second.map f) := by
  refine ⟨replayed.kept, replayed.onward, ?_⟩
  intro agree
  rw [replayed.alike agree]
  rfl

/-- The dice of both parts have to agree before the second run can be followed through. -/
theorem andThen {next : α → Context Replay → Outcome Replay ε β}
    (replayed : Replayed faces others start first second)
    (later : ∀ a (context : Context Replay), context.roller.faces = faces →
      Replayed faces others context.roller.drawn (next a context)
        (next a (context.mapRoller (.withFaces others)))) :
    Replayed faces others start (first.andThen next) (second.andThen next) := by
  cases ended : first.result with
  | error error =>
      rw [and_then_of_error ended]
      refine ⟨replayed.kept, replayed.onward, ?_⟩
      intro agree
      have failed : (first.mapRoller (Replay.withFaces others)).result = .error error := ended
      rw [replayed.alike agree, and_then_of_error failed]
      rfl
  | ok a =>
      have reached := later a first.context replayed.kept
      have onward := replayed.onward
      rw [and_then_of_ok ended]
      refine ⟨reached.kept, Nat.le_trans onward reached.onward, ?_⟩
      intro agree
      have given : (first.mapRoller (Replay.withFaces others)).result = .ok a := ended
      rw [replayed.alike fun index lower upper =>
        agree index lower (Nat.lt_of_lt_of_le upper reached.onward), and_then_of_ok given]
      exact congrArg (Outcome.after · first.events) (reached.alike fun index lower upper =>
        agree index (Nat.le_trans onward lower) upper)

end Replayed

end Outcome

open Outcome (Replayed)

section Replaying

variable {faces others : Nat → UInt32}

theorem Context.ask_replayed {count : Nat} {draw : Replay → ρ × Replay}
    (reads : Replay.Reads draw count) {refusal : ε}
    {granted : ρ → Context Replay → Outcome Replay ε α}
    (later : ∀ drawn (context : Context Replay), context.roller.faces = faces →
      Replayed faces others context.roller.drawn (granted drawn context)
        (granted drawn (context.mapRoller (.withFaces others))))
    {context : Context Replay} (kept : context.roller.faces = faces) :
    Replayed faces others context.roller.drawn
      (context.ask count draw (fun charged => ⟨.error refusal, charged, []⟩) granted)
      ((context.mapRoller (.withFaces others)).ask count draw
        (fun charged => ⟨.error refusal, charged, []⟩) granted) := by
  have sameBudget : (context.mapRoller (Replay.withFaces others)).budget = context.budget := rfl
  rw [ask, ask, sameBudget]
  split
  · exact ⟨kept, Nat.le_refl _, fun _ => rfl⟩
  · have moved := reads.moves context.roller
    have reached := later (draw context.roller).1
      ((context.charge count).withRoller (draw context.roller).2) (by
        rw [withRoller, moved]
        exact kept)
    have here : ((context.charge count).withRoller (draw context.roller).2).roller.drawn =
        context.roller.drawn + count := by
      rw [withRoller, moved]
    rw [here] at reached
    have onward := reached.onward
    refine ⟨reached.kept, by omega, ?_⟩
    -- The dice drawn here come first in the window, those drawn later make up the rest of it.
    intro agree
    have sameFaces := reads.alike context.roller others fun index lower upper => by
      rw [kept]
      exact agree index lower (by omega)
    have movedOn : (draw (context.roller.withFaces others)).2 =
        (draw context.roller).2.withFaces others := by
      rw [reads.moves, moved]
      rfl
    have same := reached.alike fun index lower upper => agree index (by omega) upper
    rw [← same]
    change granted (draw (context.roller.withFaces others)).1
      ((context.charge count).withRoller (draw (context.roller.withFaces others)).2) = _
    rw [sameFaces, movedOn]
    rfl

theorem Plan.run_replayed (plan : Plan ε α) {context : Context Replay}
    (kept : context.roller.faces = faces) :
    Replayed faces others context.roller.drawn (plan.run context)
      (plan.run (context.mapRoller (.withFaces others))) := by
  induction plan generalizing context with
  | done a => exact ⟨kept, Nat.le_refl _, fun _ => rfl⟩
  | fail e => exact ⟨kept, Nat.le_refl _, fun _ => rfl⟩
  | rollMany die count refusal next ih =>
      rw [run_roll_many, run_roll_many]
      exact Context.ask_replayed (Replay.reads_batch die count) (fun faces _ => ih faces) kept
  | rollOne die refusal next ih =>
      rw [run_roll_one, run_roll_one]
      exact Context.ask_replayed (Replay.reads_single die) (fun face _ => ih face) kept
  | note event rest ih => exact (ih kept).after [event]

namespace Context

theorem perform_rolls_replayed (rolls : List Roll) (index : Nat) {context : Context Replay}
    (kept : context.roller.faces = faces) :
    Replayed faces others context.roller.drawn (performRolls rolls index context)
      (performRolls rolls index (context.mapRoller (.withFaces others))) := by
  induction rolls generalizing index context with
  | nil => exact ⟨kept, Nat.le_refl _, fun _ => rfl⟩
  | cons roll rest ih =>
      cases roll with
      | diceMap name map =>
          have registered : (context.withMaps (context.maps.register name map)).roller.faces =
            faces := kept
          exact (ih index registered).after [.registered name map.size]
      | expression expr =>
          rw [perform_expression, perform_expression]
          apply ((expr.eval context.maps).run_replayed kept).andThen
          intro value context kept
          exact ((ih (index + 1) kept).map _).after _

theorem evaluate_replayed (context : Context Replay) {tokens : List Token}
    (nonempty : tokens ≠ []) :
    Replayed context.roller.faces others context.roller.drawn (context.evaluate tokens)
      ((context.mapRoller (.withFaces others)).evaluate tokens) := by
  rw [evaluate_of_nonempty _ nonempty, evaluate_of_nonempty _ nonempty, perform_and_then,
    perform_and_then]
  have kept : context.resetRolls.roller.faces = context.roller.faces := rfl
  apply Replayed.map
  apply (perform_rolls_replayed (Reading.ofTokens tokens).rolls 0 kept).andThen
  intro values context kept
  unfold conclude
  cases (Reading.ofTokens tokens).fault with
  | none => exact ⟨kept, Nat.le_refl _, fun _ => rfl⟩
  | some fault => exact ⟨kept, Nat.le_refl _, fun _ => rfl⟩

/-- A replay knows its place, so where it ends tells how many dice were drawn. -/
theorem replay_drawn (context : Context Replay) (tokens : List Token) :
    (context.evaluate tokens).context.roller.drawn =
      context.roller.drawn + context.diceDrawn tokens := by
  let placed (replay : Replay) : Counted Replay := ⟨replay, replay.drawn⟩
  let further (counted : Counted Replay) : Counted Replay :=
    ⟨counted.roller, context.roller.drawn + counted.drawn⟩
  have placedAlike : DrawsAlike placed := fun _ _ _ => rfl
  have furtherAlike : DrawsAlike further := fun _ _ _ => rfl
  have start : context.mapRoller placed = context.counted.mapRoller further := rfl
  have same := evaluate_map_roller placedAlike context tokens
  rw [start, evaluate_map_roller furtherAlike] at same
  exact congrArg (fun outcome => outcome.context.roller.drawn) same.symm

end Context

end Replaying

/-- The plan asks for no dice. -/
def Plan.Diceless : Plan ε α → Prop
  | done _ => True
  | fail _ => True
  | rollMany _ _ _ _ => False
  | rollOne _ _ _ => False
  | note _ rest => rest.Diceless

def Context.withDice (roller : τ) (budget : Budget) (context : Context σ) : Context τ :=
  ⟨roller, budget, context.maps⟩

/-- The same outcome, had it come about with other dice. -/
def Outcome.withDice (roller : τ) (budget : Budget) (outcome : Outcome σ ε α) : Outcome τ ε α :=
  ⟨outcome.result, outcome.context.withDice roller budget, outcome.events⟩

theorem Outcome.with_dice_and_then {roller : τ} {budget : Budget} {first : Outcome σ ε α}
    {next : α → Context σ → Outcome σ ε β} {next' : α → Context τ → Outcome τ ε β}
    (same : ∀ a context,
      next' a (context.withDice roller budget) = (next a context).withDice roller budget) :
    (first.withDice roller budget).andThen next' =
      (first.andThen next).withDice roller budget := by
  rw [andThen, andThen, withDice]
  cases first.result with
  | ok a =>
      dsimp only
      rw [same]
      rfl
  | error error => rfl

namespace Plan.Diceless

theorem ofExcept (result : Except ε α) : (Plan.ofExcept result).Diceless := by
  cases result with
  | ok a => trivial
  | error e => trivial

theorem bind {plan : Plan ε α} {next : α → Plan ε β} (here : plan.Diceless)
    (there : ∀ a, (next a).Diceless) : (plan >>= next).Diceless := by
  induction plan with
  | done a => exact there a
  | fail e => trivial
  | rollMany die count refusal k ih => exact here.elim
  | rollOne die refusal k ih => exact here.elim
  | note event rest ih => exact ih here

theorem mapError {ε' : Type} {plan : Plan ε α} (here : plan.Diceless) (f : ε → ε') :
    (plan.mapError f).Diceless := by
  induction plan with
  | done a => trivial
  | fail e => trivial
  | rollMany die count refusal k ih => exact here.elim
  | rollOne die refusal k ih => exact here.elim
  | note event rest ih => exact ih here

theorem run [Roller σ] [Roller τ] {plan : Plan ε α} (diceless : plan.Diceless) (roller : τ)
    (budget : Budget) (context : Context σ) :
    plan.run (context.withDice roller budget) = (plan.run context).withDice roller budget := by
  induction plan with
  | done a => rfl
  | fail e => rfl
  | rollMany die count refusal k ih => exact diceless.elim
  | rollOne die refusal k ih => exact diceless.elim
  | note event rest ih => exact congrArg (Outcome.after · [event]) (ih diceless)

end Plan.Diceless

theorem BinaryOperator.apply_diceless {op : BinaryOperator} (rollsNone : ¬op.RollsDice)
    (maps : DiceMaps) (lhs rhs : Value) : (op.apply maps lhs rhs).Diceless := by
  cases op with
  | dice op => exact absurd (.inl rfl) rollsNone
  | poolGeneration op => exact absurd (.inr rfl) rollsNone
  | _ => exact .ofExcept _

/-- No token is an operator that rolls dice. -/
def WithoutDice (tokens : List Token) : Prop :=
  ∀ symbol, Token.operator .dice symbol ∉ tokens ∧ Token.operator .poolGeneration symbol ∉ tokens

theorem Expr.eval_diceless {tokens : List Token} (without : WithoutDice tokens) {expr : Expr}
    (operators : expr.OperatorsIn tokens) (maps : DiceMaps) : (expr.eval maps).Diceless := by
  induction expr with
  | literal l => trivial
  | group inner ih => exact ih operators
  | unary op position operand ih =>
      exact (ih operators.2).bind fun value => (Plan.Diceless.ofExcept _).mapError _
  | binary op position lhs rhs lhsIh rhsIh =>
      obtain ⟨⟨operatorClass, symbol, found, known⟩, inLhs, inRhs⟩ := operators
      have member := List.mem_of_getElem? found
      have rollsNone : ¬op.RollsDice := by
        have sameClass := (BinaryOperator.lookup?_eq_some_iff.mp known).1
        rintro (dice | pool)
        · rw [sameClass.symm.trans dice] at member
          exact (without symbol).1 member
        · rw [sameClass.symm.trans pool] at member
          exact (without symbol).2 member
      apply (lhsIh inLhs).bind
      intro left
      apply (rhsIh inRhs).bind
      intro right
      apply ((BinaryOperator.apply_diceless rollsNone maps left right).mapError _).bind
      intro result
      trivial

namespace Context

variable [Roller σ] [Roller τ]

theorem perform_rolls_diceless {tokens : List Token} (without : WithoutDice tokens)
    {rolls : List Roll} (operators : ∀ roll ∈ rolls, roll.OperatorsIn tokens) (index : Nat)
    (roller : τ) (budget : Budget) (context : Context σ) :
    performRolls rolls index (context.withDice roller budget) =
      (performRolls rolls index context).withDice roller budget := by
  induction rolls generalizing index context with
  | nil => rfl
  | cons roll rest ih =>
      have here := operators roll List.mem_cons_self
      have later := ih fun roll member => operators roll (List.mem_cons_of_mem _ member)
      cases roll with
      | diceMap name map =>
          exact congrArg (Outcome.after · [.registered name map.size])
            (later index (context.withMaps (context.maps.register name map)))
      | expression expr =>
          have diceless := Expr.eval_diceless without here context.maps
          have sameMaps : (context.withDice roller budget).maps = context.maps := rfl
          rw [perform_expression, perform_expression, sameMaps, diceless.run]
          apply Outcome.with_dice_and_then
          intro value context
          rw [later]
          rfl

theorem evaluate_diceless {tokens : List Token} (nonempty : tokens ≠ [])
    (without : WithoutDice tokens) (roller : τ) (budget : Budget) (context : Context σ) :
    (context.withDice roller budget).evaluate tokens =
      (context.evaluate tokens).withDice roller { budget with spent := 0 } := by
  rw [evaluate_of_nonempty _ nonempty, evaluate_of_nonempty _ nonempty, perform_and_then,
    perform_and_then]
  have performed := perform_rolls_diceless without (Reading.operators_in_of_tokens tokens) 0
    roller { budget with spent := 0 } context.resetRolls
  have start : (context.withDice roller budget).resetRolls =
      context.resetRolls.withDice roller { budget with spent := 0 } := rfl
  have concluded : ∀ (values : List Value) (context : Context σ),
      conclude (Reading.ofTokens tokens).fault values
          (context.withDice roller { budget with spent := 0 }) =
        (conclude (Reading.ofTokens tokens).fault values context).withDice roller
          { budget with spent := 0 } := by
    intro values context
    unfold conclude
    cases (Reading.ofTokens tokens).fault with
    | none => rfl
    | some fault => rfl
  rw [start, performed, Outcome.with_dice_and_then concluded]
  rfl

theorem dice_drawn_diceless {tokens : List Token} (nonempty : tokens ≠ [])
    (without : WithoutDice tokens) (context : Context σ) : context.diceDrawn tokens = 0 := by
  have same := evaluate_diceless nonempty without context.counted.roller context.budget
    context.counted
  exact congrArg (fun outcome => outcome.context.roller.drawn) same

/-- Replaying other faces that begin with those that were drawn, a list has the same outcome and
draws as many dice. A list without dice draws none, and it has the same outcome with every roller
and under every limit. -/
theorem outcome_of_dice_drawn {tokens : List Token} (nonempty : tokens ≠ []) :
    (∀ (context : Context Replay) (faces : Nat → UInt32),
      let start := context.roller.drawn
      let other := context.mapRoller (Replay.withFaces faces)
      (∀ index < context.diceDrawn tokens,
        faces (start + index) = context.roller.faces (start + index)) →
      (other.evaluate tokens).result = (context.evaluate tokens).result ∧
        other.diceDrawn tokens = context.diceDrawn tokens ∧
        (other.evaluate tokens).context.rolls = (context.evaluate tokens).context.rolls ∧
        (other.evaluate tokens).context.maps = (context.evaluate tokens).context.maps) ∧
    (WithoutDice tokens →
      ∀ (σ τ : Type) [Roller σ] [Roller τ] (context : Context σ) (other : Context τ),
        context.diceDrawn tokens = 0 ∧ (context.evaluate tokens).context.rolls = 0 ∧
        (other.maps = context.maps →
          (other.evaluate tokens).result = (context.evaluate tokens).result ∧
            (other.evaluate tokens).context.maps = (context.evaluate tokens).context.maps)) := by
  constructor
  · intro context faces start other agree
    have ended := context.replay_drawn tokens
    have replayed : Replayed context.roller.faces faces start (context.evaluate tokens)
        (other.evaluate tokens) := context.evaluate_replayed nonempty
    have same := replayed.alike fun index lower upper => by
      have further := agree (index - start) (by omega)
      rwa [Nat.add_sub_cancel' lower] at further
    have sameEnd := other.replay_drawn tokens
    rw [same] at sameEnd ⊢
    have sameCount : start + other.diceDrawn tokens = start + context.diceDrawn tokens :=
      sameEnd.symm.trans ended
    exact ⟨rfl, by omega, rfl, rfl⟩
  · intro without σ τ _ _ context other
    have own := evaluate_diceless nonempty without context.roller context.budget context
    refine ⟨dice_drawn_diceless nonempty without context, ?_, ?_⟩
    · exact congrArg (fun outcome => outcome.context.rolls) own
    · intro sameMaps
      have moved := evaluate_diceless nonempty without other.roller other.budget context
      have there : context.withDice other.roller other.budget = other := by
        rw [withDice, ← sameMaps]
      rw [there] at moved
      rw [moved]
      exact ⟨rfl, rfl⟩

/-- A sum of two dice and then a pool to which no number can be added, with a sequence that goes on
otherwise after the three dice drawn; and a sum without dice where none are allowed. -/
theorem outcome_of_dice_drawn_failing_and_sum :
    let number (n : Int) : Token := .literal (.number n)
    let dice : List Token := [number 2, .operator .dice "d", number 6, .delimiter, number 1,
      .operator .poolGeneration "g", number 4, .operator .additive "+", number 1]
    let sum : List Token := [number 2, .operator .additive "+", number 6]
    let context : Context Replay := .new (.ofArray #[4, 6, 3]) none
    let other := context.mapRoller (Replay.withFaces (Replay.ofArray #[4, 6, 3, 5]).faces)
    let refusing : Context (Counted Replay) := context.counted.setLimit (some 0)
    (dice ≠ [] ∧ context.diceDrawn dice = 3 ∧
      (other.evaluate dice).result = (context.evaluate dice).result ∧
      other.diceDrawn dice = context.diceDrawn dice) ∧
    sum ≠ [] ∧ WithoutDice sum ∧ context.diceDrawn sum = 0 ∧
      (refusing.evaluate sum).result = (context.evaluate sum).result := by
  intro number dice sum context other refusing
  have diceNonempty : dice ≠ [] := List.cons_ne_nil _ _
  have sumNonempty : sum ≠ [] := List.cons_ne_nil _ _
  have three : context.diceDrawn dice = 3 := by decide +kernel
  have agree : ∀ index < context.diceDrawn dice,
      (Replay.ofArray #[4, 6, 3, 5]).faces (context.roller.drawn + index) =
        context.roller.faces (context.roller.drawn + index) := by
    rw [three]
    decide
  have without : WithoutDice sum := by
    intro symbol
    simp [sum, number]
  have replayed := (outcome_of_dice_drawn diceNonempty).1 context _ agree
  obtain ⟨noneDrawn, _, alike⟩ := (outcome_of_dice_drawn sumNonempty).2 without _ _ context refusing
  exact ⟨⟨diceNonempty, three, replayed.1, replayed.2.1⟩, sumNonempty, without, noneDrawn,
    (alike rfl).1⟩

end Context

end DiceLang
