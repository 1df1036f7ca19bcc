import DiceLang.Proofs.FailingOperator
import DiceLang.Proofs.Reading.Parentheses

/-!
# Parentheses that follow the structure change nothing

A group means what it encloses. If sub-expressions of what is read from a list are put in
parentheses, the same expressions are evaluated, in the same order, with the same dice. Only
positions are different, and an error is located at the same operator in its new place.
-/

namespace DiceLang

set_option autoImplicit false

theorem Expr.eval_ungroup (maps : DiceMaps) (expr : Expr) :
    expr.ungroup.eval maps = expr.eval maps := by
  induction expr with
  | literal l => rfl
  | group inner ih => exact ih
  | unary op position operand ih => rw [ungroup, eval, ih, eval]
  | binary op position lhs rhs lhsIh rhsIh => rw [ungroup, eval, lhsIh, rhsIh, eval]

namespace Context

variable {σ : Type} [Roller σ]

theorem perform_rolls_ungroup (rolls : List Roll) (index : Nat) (context : Context σ) :
    performRolls (rolls.map Roll.ungroup) index context = performRolls rolls index context := by
  induction rolls generalizing index context with
  | nil => rfl
  | cons roll rest ih =>
      cases roll with
      | diceMap name map => exact congrArg (Outcome.after · _) (ih index _)
      | expression expr =>
          rw [List.map_cons, Roll.ungroup, perform_expression, perform_expression,
            Expr.eval_ungroup]
          exact Outcome.and_then_congr fun value _ => by rw [ih]

theorem perform_rolls_grouped {f : Nat → Nat} {rolls grouped : List Roll}
    (same : grouped.map Roll.ungroup = (rolls.map (Roll.relocate f)).map Roll.ungroup)
    (index : Nat) (context : Context σ) :
    Outcome.Translated (ReadError.relocate f) (performRolls rolls index context)
      (performRolls grouped index context) := by
  have moves : MovesFailures f (ReadError.relocate f) := fun _ _ => rfl
  rw [← perform_rolls_ungroup grouped, same, perform_rolls_ungroup]
  exact perform_rolls_relocate moves rolls index index context

theorem evaluate_of_read {tokens : List Token} {rolls : List Roll} (context : Context σ)
    (nonempty : tokens ≠ []) (read : readRolls tokens = .ok rolls) :
    context.evaluate tokens = (performRolls rolls 0 context.resetRolls).map Value.gather := by
  rw [evaluate_of_nonempty _ nonempty, reading_of_read_rolls read]
  rfl

theorem raised_in_roll {context : Context σ} {tokens : List Token} {rolls : List Roll}
    {error : ReadError} (nonempty : tokens ≠ []) (read : readRolls tokens = .ok rolls)
    (failed : (context.evaluate tokens).result = .error error) :
    ∃ expr, Roll.expression expr ∈ rolls ∧ expr.Raises error := by
  rw [evaluate_of_read context nonempty read] at failed
  obtain ⟨before, expr, after, _, rfl, _, stopped, _⟩ :=
    perform_rolls_error (Outcome.map_error_iff.mp failed)
  exact ⟨expr, by simp, Expr.raises_of_run_error stopped⟩

/-- Putting sub-expressions in parentheses changes neither the value nor what is left behind, and
an error stays with its operator. The nodes are the sub-expressions with the places where they are
written, each of them once, so every set of sub-expressions can be chosen. -/
theorem parentheses_keep_meaning (context : Context σ) {tokens : List Token} {rolls : List Roll}
    (nonempty : tokens ≠ []) (read : readRolls tokens = .ok rolls) (chosen : Node → Bool) :
    let nodes := rollNodes 0 tokens rolls
    let picked := nodes.filter chosen
    let grouped := parenthesize picked 0 tokens
    let plain := context.evaluate tokens
    let outcome := context.evaluate grouped
    (nodes.Nodup ∧ ∀ node ∈ nodes, node.expr.tokens <+: tokens.drop node.first) ∧
    (∀ index < tokens.length, grouped[image picked index]? = tokens[index]?) ∧
    outcome.context = plain.context ∧
    (∀ value, outcome.result = .ok value ↔ plain.result = .ok value) ∧
    ∀ error, plain.result = .error error →
      error.phase = .ended ∧
      (∃ cause operatorClass symbol, error.problem = .roll cause ∧
        tokens[error.position]? = some (.operator operatorClass symbol)) ∧
      outcome.result = .error { error with position := image picked error.position } := by
  intro nodes picked grouped plain outcome
  obtain ⟨writing, respects⟩ := writing_of_read_rolls read
  obtain ⟨groupedRolls, groupedWriting, groupedRespect, same⟩ :=
    writing.enclosed respects (.refl picked 0 (0 + tokens.length))
  have groupedRead : readRolls grouped = .ok groupedRolls :=
    read_rolls_of_writing groupedWriting groupedRespect
  have groupedNonempty : grouped ≠ [] := parenthesize_ne_nil picked 0 nonempty
  have translated : Outcome.Translated (ReadError.relocate (image picked)) plain outcome := by
    rw [show plain = _ from evaluate_of_read context nonempty read,
      show outcome = _ from evaluate_of_read context groupedNonempty groupedRead]
    exact (perform_rolls_grouped same 0 context.resetRolls).map Value.gather
  refine ⟨⟨writing.nodes_nodup, writing.nodes_written [] rfl⟩,
    fun index inside => parenthesize_at_image picked inside, translated.context,
    fun value => translated.ok_iff, ?_⟩
  intro error failed
  obtain ⟨expr, member, raised⟩ := raised_in_roll nonempty read failed
  have operators : expr.OperatorsIn tokens := writing.operators_in [] rfl _ member
  obtain ⟨ended, cause, operatorClass, symbol, own, token, _⟩ :=
    expr.raises_at_operator operators raised
  exact ⟨ended, ⟨cause, operatorClass, symbol, own, token⟩, translated.error failed⟩

/-- Groups around everything that begins a sum, and one more around a group, in front of a division
by zero and behind it. -/
theorem parentheses_keep_meaning_nested :
    let number (n : Int) : Token := .literal (.number n)
    let dice : Token := .operator .dice "d"
    let times : Token := .operator .multiplicative "*"
    let slash : Token := .operator .multiplicative "/"
    let plus : Token := .operator .additive "+"
    let minus : Token := .operator .additive "-"
    let tokens := [number 2, dice, number 6, times, number 3, plus, number 1, .delimiter,
      number 4, slash, .groupOpen, number 1, minus, number 1, .groupClose]
    let grouped := [.groupOpen, .groupOpen, .groupOpen, .groupOpen, number 2, .groupClose, dice,
      number 6, .groupClose, times, number 3, .groupClose, plus, number 1, .groupClose, .delimiter,
      number 4, slash, .groupOpen, .groupOpen, number 1, minus, number 1, .groupClose, .groupClose]
    let context : Context Replay := .new (.ofArray #[5, 3]) none
    (∃ rolls, readRolls tokens = .ok rolls ∧ parenthesize ((rollNodes 0 tokens rolls).filter
      fun node => node.first = 0 ∨ node.first = 10) 0 tokens = grouped) ∧
    (context.evaluate tokens).result = .error ⟨.roll .zeroDivision, .ended, 9⟩ ∧
    (context.evaluate grouped).result = .error ⟨.roll .zeroDivision, .ended, 17⟩ ∧
    (context.evaluate grouped).context = (context.evaluate tokens).context := by
  intro number dice times slash plus minus tokens grouped context
  let rolls : List Roll :=
    [.expression (.binary (.additive .add) 5
        (.binary (.multiplicative .multiply) 3
          (.binary (.dice .total) 1 (.literal (.number 2)) (.literal (.number 6)))
          (.literal (.number 3)))
        (.literal (.number 1))),
      .expression (.binary (.multiplicative .divide) 9 (.literal (.number 4))
        (.group (.binary (.additive .subtract) 12 (.literal (.number 1)) (.literal (.number 1)))))]
  have read : readRolls tokens = .ok rolls := rfl
  have written : parenthesize ((rollNodes 0 tokens rolls).filter
      fun node => node.first = 0 ∨ node.first = 10) 0 tokens = grouped := by decide +kernel
  have failed : (context.evaluate tokens).result = .error ⟨.roll .zeroDivision, .ended, 9⟩ := by
    have error : (match (context.evaluate tokens).result with
        | .ok _ => none
        | .error error => some error) = some ⟨.roll .zeroDivision, .ended, 9⟩ := by
      decide +kernel
    cases result : (context.evaluate tokens).result with
    | ok value =>
        rw [result] at error
        cases error
    | error found =>
        rw [result] at error
        exact congrArg Except.error (Option.some.inj error)
  have place : image ((rollNodes 0 tokens rolls).filter
      fun node => node.first = 0 ∨ node.first = 10) 9 = 17 := by decide +kernel
  obtain ⟨_, _, sameContext, _, errors⟩ := parentheses_keep_meaning context
    (List.cons_ne_nil _ _) read fun node => node.first = 0 ∨ node.first = 10
  have moved := (errors _ failed).2.2
  rw [written] at sameContext
  rw [written, place] at moved
  exact ⟨⟨rolls, read, written⟩, failed, moved, sameContext⟩

end Context

end DiceLang
