import DiceLang.Proofs.Plans
import DiceLang.Proofs.Reading.Prefixes

/-!
# Positions are carried along and never looked at

Tokens have indices so that errors can be located, and for no other purpose. If all positions are
changed by some rule, reading and evaluation go as before, and the positions in what they leave are
changed by the same rule. In particular tokens are read in the middle of a list as they are at its
beginning.
-/

namespace DiceLang

set_option autoImplicit false

def Expr.relocate (f : Nat → Nat) : Expr → Expr
  | literal l => literal l
  | group inner => group (inner.relocate f)
  | unary op position operand => unary op (f position) (operand.relocate f)
  | binary op position lhs rhs => binary op (f position) (lhs.relocate f) (rhs.relocate f)

def Roll.relocate (f : Nat → Nat) : Roll → Roll
  | diceMap name map => diceMap name map
  | expression expr => expression (expr.relocate f)

def ReadError.relocate (f : Nat → Nat) (error : ReadError) : ReadError :=
  { error with position := f error.position }

namespace Frame

def relocate (f : Nat → Nat) : Frame → Frame
  | group position => group (f position)
  | unary op position => unary op (f position)
  | binary op position lhs => binary op (f position) (lhs.relocate f)

theorem reduce_relocate (f : Nat → Nat) (level : Nat) (stack : List Frame) (expr : Expr) :
    reduce level (stack.map (relocate f)) (expr.relocate f) =
      ((reduce level stack expr).1.map (relocate f), (reduce level stack expr).2.relocate f) := by
  fun_induction reduce level stack expr with
  | case1 expr op position lhs rest binds ih =>
      rw [List.map_cons, relocate, reduce, if_pos binds]
      exact ih
  | case2 expr op position lhs rest loose => rw [List.map_cons, relocate, reduce, if_neg loose]
  | case3 expr op position rest binds ih =>
      rw [List.map_cons, relocate, reduce, if_pos binds]
      exact ih
  | case4 expr op position rest loose => rw [List.map_cons, relocate, reduce, if_neg loose]
  | case5 stack expr noBinary noUnary =>
      match stack with
      | [] => rfl
      | group position :: rest => rfl
      | unary op position :: rest => exact absurd rfl (noUnary op position rest)
      | binary op position lhs :: rest => exact absurd rfl (noBinary op position lhs rest)

theorem admits_summary_relocate (f : Nat → Nat) (stack : List Frame) :
    admitsSummary (stack.map (relocate f)) = admitsSummary stack := by
  match stack with
  | [] => rfl
  | group _ :: _ => rfl
  | unary _ _ :: _ => rfl
  | binary _ _ _ :: _ => rfl

end Frame

namespace Reader

def relocate (f : Nat → Nat) : Reader → Reader
  | start => start
  | between => between
  | map name diceMap => map name diceMap
  | wanting stack => wanting (stack.map (Frame.relocate f))
  | holding stack expr => holding (stack.map (Frame.relocate f)) (expr.relocate f)

theorem phase_relocate (f : Nat → Nat) (reader : Reader) :
    (reader.relocate f).phase = reader.phase := by
  match reader with
  | start => rfl
  | between => rfl
  | map _ _ => rfl
  | wanting [] => rfl
  | wanting (.group _ :: _) => rfl
  | wanting (.unary _ _ :: _) => rfl
  | wanting (.binary _ _ _ :: _) => rfl
  | holding _ _ => rfl

/-- What a step leaves, with its positions changed. -/
def relocateResult {α : Type} (f : Nat → Nat) (move : α → α) (result : Except ReadError α) :
    Except ReadError α :=
  (result.map move).mapError (ReadError.relocate f)

def relocateStep (f : Nat → Nat) (step : Reader × Option Roll) : Reader × Option Roll :=
  (step.1.relocate f, step.2.map (Roll.relocate f))

theorem error_relocate {α : Type} (f : Nat → Nat) (move : α → α) (reader : Reader)
    (position : Nat) (problem : Problem) :
    (reader.relocate f).error (f position) problem =
      relocateResult f move (reader.error position problem) := by
  rw [error, phase_relocate]
  rfl

theorem take_operand_relocate (f : Nat → Nat) (stack : List Frame) (position : Nat)
    (token : Token) :
    takeOperand (stack.map (Frame.relocate f)) (f position) token =
      relocateResult f (relocate f) (takeOperand stack position token) := by
  have refused (problem : Problem) := error_relocate f (relocate f) (wanting stack) position problem
  cases token with
  | literal l => rfl
  | groupOpen => rfl
  | operator operatorClass symbol =>
      cases operatorClass with
      | summary =>
          simp only [takeOperand, Frame.admits_summary_relocate]
          split
          · cases Summary.lookup? symbol with
            | some op => rfl
            | none => exact refused _
          · exact refused _
      | _ => exact refused _
  | _ => exact refused _

theorem take_operator_relocate (f : Nat → Nat) (stack : List Frame) (expr : Expr)
    (position : Nat) (operatorClass : OperatorClass) (symbol : String) :
    takeOperator (stack.map (Frame.relocate f)) (expr.relocate f) (f position) operatorClass
        symbol =
      relocateResult f (relocate f) (takeOperator stack expr position operatorClass symbol) := by
  unfold takeOperator
  cases BinaryOperator.lookup? operatorClass symbol with
  | some op =>
      simp only [Frame.reduce_relocate]
      rfl
  | none => rfl

theorem take_end_relocate (f : Nat → Nat) (stack : List Frame) (expr : Expr) (position : Nat)
    (token : Token) :
    takeEnd (stack.map (Frame.relocate f)) (expr.relocate f) (f position) token =
      relocateResult f (relocateStep f) (takeEnd stack expr position token) := by
  have shape := Frame.reduce_zero_stack stack expr
  unfold takeEnd
  rw [Frame.reduce_relocate]
  rcases reduced : Frame.reduce 0 stack expr with ⟨left, whole⟩
  rw [reduced] at shape
  rcases shape with empty | ⟨opened, rest, grouped⟩
  · cases empty
    cases token <;> rfl
  · cases grouped
    cases token <;> rfl

theorem take_start_relocate (f : Nat → Nat) (reader : Reader) (position : Nat) (token : Token) :
    (reader.relocate f).takeStart (f position) token =
      relocateResult f (relocate f) (reader.takeStart position token) := by
  unfold takeStart
  split
  · rfl
  · rfl
  · split
    · exact take_operand_relocate f [] position token
    · exact error_relocate f (relocate f) reader position .badStart

private theorem relocate_without_roll {f : Nat → Nat} {here there : Except ReadError Reader}
    (same : there = relocateResult f (relocate f) here) :
    there.map (·, (none : Option Roll)) =
      relocateResult f (relocateStep f) (here.map (·, none)) := by
  rw [same]
  cases here with
  | ok next => rfl
  | error fault => rfl

theorem step_relocate (f : Nat → Nat) (reader : Reader) (position : Nat) (token : Token) :
    (reader.relocate f).step (f position) token =
      relocateResult f (relocateStep f) (reader.step position token) := by
  cases reader with
  | start => exact relocate_without_roll (take_start_relocate f start position token)
  | between => exact relocate_without_roll (take_start_relocate f between position token)
  | map name diceMap => cases token <;> rfl
  | wanting stack => exact relocate_without_roll (take_operand_relocate f stack position token)
  | holding stack expr =>
      cases token with
      | operator operatorClass symbol =>
          cases operatorClass with
          | summary => exact take_end_relocate f stack expr position _
          | _ => exact relocate_without_roll (take_operator_relocate f stack expr position _ symbol)
      | _ => exact take_end_relocate f stack expr position _

theorem finish_relocate (f : Nat → Nat) (reader : Reader) (length : Nat) :
    (reader.relocate f).finish (f length) =
      relocateResult f (Option.map (Roll.relocate f)) (reader.finish length) := by
  cases reader with
  | start => rfl
  | between => rfl
  | map name diceMap => rfl
  | wanting stack => exact error_relocate f _ (wanting stack) length _
  | holding stack expr =>
      have shape := Frame.reduce_zero_stack stack expr
      unfold finish relocate
      dsimp only
      rw [Frame.reduce_relocate]
      rcases reduced : Frame.reduce 0 stack expr with ⟨left, whole⟩
      rw [reduced] at shape
      rcases shape with empty | ⟨opened, rest, grouped⟩
      · cases empty
        rfl
      · cases grouped
        rfl

end Reader

namespace Reading

def relocate (f : Nat → Nat) (reading : Reading) : Reading :=
  ⟨reading.rolls.map (Roll.relocate f), reading.fault.map (ReadError.relocate f)⟩

theorem push_relocate (f : Nat → Nat) (reading : Reading) (roll : Option Roll) :
    (reading.push roll).relocate f = (reading.relocate f).push (roll.map (Roll.relocate f)) := by
  cases roll with
  | none => rfl
  | some roll => rfl

theorem go_on_relocate (offset : Nat) (reader : Reader) (position : Nat) (tokens : List Token) :
    goOn (reader.relocate (· + offset)) (position + offset) tokens =
      (goOn reader position tokens).relocate (· + offset) := by
  induction tokens generalizing reader position with
  | nil =>
      have finished := reader.finish_relocate (· + offset) position
      rw [goOn, goOn, finished]
      cases reader.finish position with
      | ok roll => cases roll <;> rfl
      | error fault => rfl
  | cons token rest ih =>
      have stepped := reader.step_relocate (· + offset) position token
      rw [goOn, goOn, stepped]
      cases reader.step position token with
      | ok result =>
          obtain ⟨next, roll⟩ := result
          -- An offset commutes with the step to the next position; not every rule does.
          have later := ih next (position + 1)
          rw [Nat.add_right_comm] at later
          dsimp only
          rw [push_relocate, ← later]
          rfl
      | error fault => rfl

end Reading

/-- The second outcome is the first one with its errors translated. Logs are not compared. -/
structure Outcome.Translated {σ ε ε' α : Type} (translate : ε → ε') (first : Outcome σ ε α)
    (second : Outcome σ ε' α) : Prop where
  result : second.result = first.result.mapError translate
  context : second.context = first.context

namespace Outcome.Translated

variable {σ ε ε' α β : Type} {translate : ε → ε'} {first : Outcome σ ε α}
  {second : Outcome σ ε' α}

theorem ok_iff (same : Translated translate first second) {a : α} :
    second.result = .ok a ↔ first.result = .ok a := by
  rw [same.result]
  cases first.result with
  | ok b =>
      change (Except.ok b : Except ε' α) = .ok a ↔ Except.ok b = .ok a
      simp
  | error failure =>
      change (Except.error (translate failure) : Except ε' α) = .ok a ↔ Except.error failure = .ok a
      simp

theorem error (same : Translated translate first second) {failure : ε}
    (failed : first.result = .error failure) : second.result = .error (translate failure) := by
  rw [same.result, failed]
  rfl

theorem after (same : Translated translate first second) (events others : List Event) :
    Translated translate (first.after events) (second.after others) :=
  ⟨same.result, same.context⟩

theorem map (same : Translated translate first second) (f : α → β) :
    Translated translate (first.map f) (second.map f) := by
  constructor
  · rw [Outcome.map, Outcome.map, same.result]
    cases first.result with
    | ok a => rfl
    | error error => rfl
  · exact same.context

theorem andThen {next : α → Context σ → Outcome σ ε β} {other : α → Context σ → Outcome σ ε' β}
    (same : Translated translate first second)
    (onward : ∀ a context, Translated translate (next a context) (other a context)) :
    Translated translate (first.andThen next) (second.andThen other) := by
  rw [Outcome.andThen, Outcome.andThen, same.result, same.context]
  cases first.result with
  | ok a => exact (onward a first.context).after first.events second.events
  | error error => exact ⟨rfl, rfl⟩

end Outcome.Translated

open Outcome (Translated)

/-- Errors of operators are located anew when their positions are. -/
def MovesFailures (f : Nat → Nat) (translate : ReadError → ReadError) : Prop :=
  ∀ position error, translate (Expr.failureAt position error) = Expr.failureAt (f position) error

section Evaluation

variable {σ α : Type} [Roller σ] {f : Nat → Nat} {translate : ReadError → ReadError}

theorem Plan.run_relocate (moves : MovesFailures f translate) (plan : Plan RollError α)
    (position : Nat) (context : Context σ) :
    Translated translate ((plan.mapError (Expr.failureAt position)).run context)
      ((plan.mapError (Expr.failureAt (f position))).run context) := by
  rw [run_map_error, run_map_error]
  constructor
  · unfold Outcome.mapError
    cases (plan.run context).result with
    | ok a => rfl
    | error error => exact congrArg Except.error (moves position error).symm
  · rfl

theorem Expr.eval_relocate (moves : MovesFailures f translate) (expr : Expr) (maps : DiceMaps)
    (context : Context σ) :
    Translated translate ((expr.eval maps).run context)
      (((expr.relocate f).eval maps).run context) := by
  induction expr generalizing context with
  | literal l => exact ⟨rfl, rfl⟩
  | group inner ih => exact ih context
  | unary op position operand ih =>
      rw [relocate, eval, eval, Plan.run_bind_and_then, Plan.run_bind_and_then]
      apply (ih context).andThen
      intro value context
      exact Plan.run_relocate moves _ position context
  | binary op position lhs rhs lhsIh rhsIh =>
      rw [relocate, eval, eval, Plan.run_bind_and_then, Plan.run_bind_and_then]
      apply (lhsIh context).andThen
      intro left context
      rw [Plan.run_bind_and_then, Plan.run_bind_and_then]
      apply (rhsIh context).andThen
      intro right context
      rw [Plan.run_bind_and_then, Plan.run_bind_and_then]
      apply (Plan.run_relocate moves _ position context).andThen
      intro result context
      exact ⟨rfl, rfl⟩

/-- Rolls are performed alike wherever they stand; the index of the first one is of no account
but for the log. -/
theorem Context.perform_rolls_relocate (moves : MovesFailures f translate) (rolls : List Roll)
    (index other : Nat) (context : Context σ) :
    Translated translate (performRolls rolls index context)
      (performRolls (rolls.map (Roll.relocate f)) other context) := by
  induction rolls generalizing index other context with
  | nil => exact ⟨rfl, rfl⟩
  | cons roll rest ih =>
      cases roll with
      | diceMap name map => exact (ih index other _).after _ _
      | expression expr =>
          rw [List.map_cons, Roll.relocate, perform_expression, perform_expression]
          apply (expr.eval_relocate moves context.maps context).andThen
          intro value context
          exact ((ih (index + 1) (other + 1) context).map _).after _ _

end Evaluation

end DiceLang
