import DiceLang.Expr.Machine
import DiceLang.Proofs.Plans

/-!
# Evaluation is the work of a stack machine

Evaluating an expression does what the machine does with the instructions of the expression: the
same result or error, the same context, the same log. The machine never lacks operands there. When
an operator fails, the machine has executed the instructions before it and none behind it, and the
log tells which binary operators have been applied by then.
-/

namespace DiceLang

set_option autoImplicit false

namespace Instruction

variable {σ : Type} [Roller σ]

theorem execute_all_cons (context : Context σ) (instruction : Instruction)
    (rest : List Instruction) (stack : List Value) :
    executeAll context (instruction :: rest) stack =
      (instruction.execute context stack).andThen fun stack context =>
        executeAll context rest stack := by
  rw [executeAll, Outcome.andThen]
  cases (instruction.execute context stack).result with
  | ok stack => rfl
  | error error => rfl

theorem execute_all_append (context : Context σ) (first second : List Instruction)
    (stack : List Value) :
    executeAll context (first ++ second) stack =
      (executeAll context first stack).andThen fun stack context =>
        executeAll context second stack := by
  induction first generalizing context stack with
  | nil => simp [executeAll, Outcome.andThen]
  | cons instruction rest ih =>
      rw [List.cons_append, execute_all_cons, execute_all_cons, Outcome.and_then_assoc]
      exact Outcome.and_then_congr fun stack _ => ih _ _

theorem execute_all_singleton (context : Context σ) (instruction : Instruction)
    (stack : List Value) :
    executeAll context [instruction] stack = instruction.execute context stack := by
  rw [execute_all_cons]
  exact Outcome.and_then_done _

theorem execute_unary (op : Summary) (position : Nat) (operand : Value) (stack : List Value)
    (context : Context σ) :
    (unary op position).execute context (operand :: stack) =
      (((Plan.ofExcept (op.apply operand)).mapError (Expr.failureAt position)).run context).map
        (· :: stack) := by
  rw [execute]
  cases op.apply operand with
  | ok result => rfl
  | error error => rfl

theorem execute_binary (op : BinaryOperator) (position : Nat) (left right : Value)
    (stack : List Value) (context : Context σ) :
    (binary op position).execute context (right :: left :: stack) =
      ((do
        let result ← (op.apply context.maps left right).mapError (Expr.failureAt position)
        Plan.log (.applied position op result)
        return result).run context).map (· :: stack) := by
  rw [execute, Plan.run_bind_and_then, Plan.run_map_error]
  unfold Outcome.andThen Outcome.mapError
  dsimp only
  cases ((op.apply context.maps left right).run context).result with
  | ok result => rfl
  | error error => rfl

/-- The instructions of an expression leave its value on top of whatever the stack held. -/
theorem execute_all_instructions (expr : Expr) (context : Context σ) (stack : List Value) :
    executeAll context expr.instructions stack =
      ((expr.eval context.maps).run context).map (· :: stack) := by
  induction expr generalizing context stack with
  | literal l => rfl
  | group inner ih => exact ih context stack
  | unary op position operand ih =>
      rw [Expr.instructions, execute_all_append, ih, Outcome.and_then_map, Expr.eval,
        Plan.run_bind_and_then, Outcome.map_and_then]
      apply Outcome.and_then_congr
      intro value _
      rw [execute_all_singleton, execute_unary]
  | binary op position lhs rhs lhsIh rhsIh =>
      rw [Expr.instructions, List.append_assoc, execute_all_append, lhsIh, Outcome.and_then_map,
        Expr.eval, Plan.run_bind_and_then, Outcome.map_and_then]
      apply Outcome.and_then_congr
      intro left _
      -- Evaluation looks the maps up in the context it starts in, the machine in the context of
      -- each instruction; plans leave the maps alone.
      have mapsBetween := (lhs.eval context.maps).run_maps context
      rw [execute_all_append, rhsIh, mapsBetween, Outcome.and_then_map, Plan.run_bind_and_then,
        Outcome.map_and_then]
      apply Outcome.and_then_congr
      intro right _
      have mapsAfter := (rhs.eval context.maps).run_maps
        ((lhs.eval context.maps).run context).context
      rw [execute_all_singleton, execute_binary, mapsAfter, mapsBetween]

/-- The number of values that an instruction takes from the stack. -/
def operands : Instruction → Nat
  | push _ => 0
  | unary _ _ => 1
  | binary _ _ => 2

/-- Each instruction finds its operands, if the first one finds `depth` values. -/
def Supplied (depth : Nat) : List Instruction → Prop
  | [] => True
  | instruction :: rest =>
      instruction.operands ≤ depth ∧ Supplied (depth - instruction.operands + 1) rest

theorem supplied_instructions (expr : Expr) {depth : Nat} {rest : List Instruction}
    (later : Supplied (depth + 1) rest) : Supplied depth (expr.instructions ++ rest) := by
  induction expr generalizing depth rest with
  | literal l => exact ⟨Nat.zero_le _, later⟩
  | group inner ih => exact ih later
  | unary op position operand ih =>
      rw [Expr.instructions, List.append_assoc]
      apply ih
      exact ⟨Nat.le_add_left 1 depth, later⟩
  | binary op position lhs rhs lhsIh rhsIh =>
      rw [Expr.instructions, List.append_assoc, List.append_assoc]
      apply lhsIh
      apply rhsIh
      exact ⟨Nat.le_add_left 2 depth, later⟩

theorem Supplied.of_append {depth : Nat} {first second : List Instruction}
    (supplied : Supplied depth (first ++ second)) : Supplied depth first := by
  induction first generalizing depth with
  | nil => trivial
  | cons instruction rest ih => exact ⟨supplied.1, ih supplied.2⟩

/-- The index of the token of an operator. -/
def position? : Instruction → Option Nat
  | push _ => none
  | unary _ position => some position
  | binary _ position => some position

def binaryPosition? : Instruction → Option Nat
  | binary _ position => some position
  | _ => none

end Instruction

/-- The index of the token of a binary operator that has been applied. -/
def Event.appliedAt? : Event → Option Nat
  | applied position _ _ => some position
  | _ => none

theorem Event.throws_apply_nothing {events : List Event}
    (throws : ∀ event ∈ events, event.IsThrow) : events.filterMap Event.appliedAt? = [] := by
  refine List.filterMap_eq_nil_iff.mpr fun event member => ?_
  have isThrow := throws event member
  cases event with
  | applied position op result => exact isThrow.elim
  | _ => rfl

namespace Instruction

variable {σ : Type} [Roller σ]

theorem execute_ok {instruction : Instruction} {context : Context σ} {stack left : List Value}
    (enough : instruction.operands ≤ stack.length)
    (executed : (instruction.execute context stack).result = .ok left) :
    left.length = stack.length - instruction.operands + 1 ∧
      (instruction.execute context stack).events.filterMap Event.appliedAt? =
        instruction.binaryPosition?.toList := by
  match instruction, stack with
  | push l, stack =>
      cases executed
      exact ⟨rfl, rfl⟩
  | unary op position, operand :: stack =>
      rw [execute] at executed ⊢
      cases applied : op.apply operand with
      | ok result =>
          rw [applied] at executed
          cases executed
          exact ⟨rfl, rfl⟩
      | error error =>
          rw [applied] at executed
          cases executed
  | binary op position, right :: below :: stack =>
      have throws := (op.apply_logs context.maps below right).run context
      rw [execute] at executed ⊢
      cases applied : ((op.apply context.maps below right).run context).result with
      | ok result =>
          rw [applied] at executed
          cases executed
          refine ⟨rfl, ?_⟩
          rw [List.filterMap_append, Event.throws_apply_nothing throws]
          rfl
      | error error =>
          rw [applied] at executed
          cases executed
  | unary op position, [] => cases enough
  | binary op position, [] => cases enough
  | binary op position, [only] =>
      have twoOfOne : 2 ≤ 1 := enough
      omega

/-- Only operators fail. The failure is located at the operator, which leaves no trace. -/
theorem execute_error {instruction : Instruction} {context : Context σ} {stack : List Value}
    {error : ReadError} (failed : (instruction.execute context stack).result = .error error) :
    (∃ position rollError, instruction.position? = some position ∧
      error = ⟨.roll rollError, .ended, position⟩) ∧
    (instruction.execute context stack).events.filterMap Event.appliedAt? = [] := by
  match instruction, stack with
  | push l, stack => cases failed
  | unary op position, operand :: stack =>
      rw [execute] at failed ⊢
      cases applied : op.apply operand with
      | ok result =>
          rw [applied] at failed
          cases failed
      | error rollError =>
          rw [applied] at failed
          cases failed
          exact ⟨⟨position, rollError, rfl, rfl⟩, rfl⟩
  | binary op position, right :: left :: stack =>
      have throws := (op.apply_logs context.maps left right).run context
      rw [execute] at failed ⊢
      cases applied : ((op.apply context.maps left right).run context).result with
      | ok result =>
          rw [applied] at failed
          cases failed
      | error rollError =>
          rw [applied] at failed
          cases failed
          exact ⟨⟨position, rollError, rfl, rfl⟩, Event.throws_apply_nothing throws⟩
  | unary op position, [] => cases failed
  | binary op position, [] => cases failed
  | binary op position, [only] => cases failed

theorem execute_all_ok {instructions : List Instruction} {context : Context σ}
    {stack left : List Value} (supplied : Supplied stack.length instructions)
    (executed : (executeAll context instructions stack).result = .ok left) :
    (executeAll context instructions stack).events.filterMap Event.appliedAt? =
      instructions.filterMap binaryPosition? := by
  induction instructions generalizing context stack with
  | nil => rfl
  | cons instruction rest ih =>
      obtain ⟨enough, restSupplied⟩ := supplied
      rw [execute_all_cons] at executed ⊢
      cases first : (instruction.execute context stack).result with
      | error error =>
          rw [Outcome.and_then_of_error first] at executed
          cases executed
      | ok between =>
          obtain ⟨depth, traced⟩ := execute_ok enough first
          rw [Outcome.and_then_of_ok first] at executed ⊢
          rw [← depth] at restSupplied
          have later := ih restSupplied executed
          show List.filterMap Event.appliedAt? (_ ++ _) = _
          rw [List.filterMap_append, traced, later, List.filterMap_cons]
          cases instruction <;> rfl

theorem execute_all_error {instructions : List Instruction} {context : Context σ}
    {stack : List Value} {error : ReadError}
    (failed : (executeAll context instructions stack).result = .error error) :
    ∃ before failing after reached, instructions = before ++ failing :: after ∧
      (executeAll context before stack).result = .ok reached ∧
      (failing.execute (executeAll context before stack).context reached).result =
        .error error := by
  induction instructions generalizing context stack with
  | nil => cases failed
  | cons instruction rest ih =>
      rw [execute_all_cons] at failed
      cases first : (instruction.execute context stack).result with
      | error other =>
          rw [Outcome.and_then_of_error first] at failed
          cases failed
          exact ⟨[], instruction, rest, stack, rfl, rfl, first⟩
      | ok between =>
          rw [Outcome.and_then_of_ok first] at failed
          obtain ⟨before, failing, after, reached, rfl, executed, stops⟩ := ih failed
          refine ⟨instruction :: before, failing, after, reached, rfl, ?_⟩
          rw [execute_all_cons, Outcome.and_then_of_ok first]
          exact ⟨executed, stops⟩

theorem execute_all_of_error {before : List Instruction} {failing : Instruction}
    {context : Context σ} {stack reached : List Value} {error : ReadError}
    (after : List Instruction)
    (executed : (executeAll context before stack).result = .ok reached)
    (stops : (failing.execute (executeAll context before stack).context reached).result =
      .error error) :
    executeAll context (before ++ failing :: after) stack =
      (failing.execute (executeAll context before stack).context reached).after
        (executeAll context before stack).events := by
  rw [execute_all_append, Outcome.and_then_of_ok executed, execute_all_cons,
    Outcome.and_then_of_error stops, ← stops]

end Instruction

open Instruction (executeAll)

/-- Evaluation and the machine agree in everything. If the expression gives a value, the log has
the traces of all its binary operators in the order of their instructions; if it fails, it does so
at the first instruction that fails, behind which nothing is executed, and the log has the traces
of the binary operators before it. -/
theorem Expr.eval_executes_instructions {σ : Type} [Roller σ] (expr : Expr)
    (context : Context σ) :
    let outcome := (expr.eval context.maps).run context
    executeAll context expr.instructions [] = outcome.map (fun value => [value]) ∧
    (∀ value, outcome.result = .ok value →
      outcome.events.filterMap Event.appliedAt? =
        expr.instructions.filterMap Instruction.binaryPosition?) ∧
    ∀ error, outcome.result = .error error →
      ∃ before failing after stack,
        let reached := executeAll context before []
        let last := failing.execute reached.context stack
        expr.instructions = before ++ failing :: after ∧
        reached.result = .ok stack ∧ last.result = .error error ∧
        outcome.context = last.context ∧ outcome.events = reached.events ++ last.events ∧
        (∃ position rollError, failing.position? = some position ∧
          error = ⟨.roll rollError, .ended, position⟩) ∧
        outcome.events.filterMap Event.appliedAt? =
          before.filterMap Instruction.binaryPosition? := by
  intro outcome
  have machine : executeAll context expr.instructions [] = outcome.map fun value => [value] :=
    Instruction.execute_all_instructions expr context []
  have sameEvents : (executeAll context expr.instructions []).events = outcome.events :=
    congrArg Outcome.events machine
  have sameContext : (executeAll context expr.instructions []).context = outcome.context :=
    congrArg Outcome.context machine
  have supplied : Instruction.Supplied 0 (expr.instructions ++ []) :=
    Instruction.supplied_instructions expr trivial
  rw [List.append_nil] at supplied
  refine ⟨machine, fun value given => ?_, fun error failed => ?_⟩
  · have executed : (executeAll context expr.instructions []).result = .ok [value] := by
      rw [machine, Outcome.map, given]
      rfl
    rw [← sameEvents]
    exact Instruction.execute_all_ok supplied executed
  · have stopped : (executeAll context expr.instructions []).result = .error error := by
      rw [machine, Outcome.map, failed]
      rfl
    obtain ⟨before, failing, after, stack, split, executed, stops⟩ :=
      Instruction.execute_all_error stopped
    have last := Instruction.execute_all_of_error after executed stops
    rw [← split] at last
    rw [split] at supplied
    have enough : Instruction.Supplied ([] : List Value).length before := supplied.of_append
    have traced := Instruction.execute_all_ok enough executed
    obtain ⟨located, untraced⟩ := Instruction.execute_error stops
    rw [← sameEvents, ← sameContext, last]
    refine ⟨before, failing, after, stack, split, executed, stops, rfl, rfl, located, ?_⟩
    show List.filterMap Event.appliedAt? (_ ++ _) = _
    rw [List.filterMap_append, traced, untraced, List.append_nil]

end DiceLang
