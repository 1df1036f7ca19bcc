import DiceLang.Proofs.Plans
import DiceLang.Proofs.Reading.Completeness
import DiceLang.Proofs.Reading.Interrupted

/-!
# Errors point at what failed

An error of a roll is raised by one of the operators of the roll. It is located at the token of
that operator, and it is one of the errors that the operator knows. Any other error is a fault in
the structure of the list; it is found before anything of its roll is evaluated.
-/

namespace DiceLang

set_option autoImplicit false

theorem Plan.ErrorsIn.ends {ε α : Type} {refusals failures fails : ε → Prop} {plan : Plan ε α}
    (errors : plan.ErrorsIn refusals failures) (refusal : ∀ error, refusals error → fails error)
    (failure : ∀ error, failures error → fails error) : plan.Ends (fun _ => True) fails := by
  induction plan with
  | done a => trivial
  | fail e => exact failure e errors
  | rollMany die count refused next ih =>
      exact ⟨refusal refused errors.1, fun faces => ih faces (errors.2 faces)⟩
  | rollOne die refused next ih =>
      exact ⟨refusal refused errors.1, fun face => ih face (errors.2 face)⟩
  | note event rest ih => exact ih errors

/-- Every error of an operator: it fails, or it is refused dice. -/
def BinaryOperator.Raises (op : BinaryOperator) (cause : RollError) : Prop :=
  op.Failure cause ∨ op.Refusal cause

namespace Expr

/-- The error is raised by an operator of the expression and located at it. -/
def Raises (error : ReadError) : Expr → Prop
  | literal _ => False
  | group inner => inner.Raises error
  | unary op position operand =>
      (∃ cause, op.Failure cause ∧ error = failureAt position cause) ∨ operand.Raises error
  | binary op position lhs rhs =>
      (∃ cause, op.Raises cause ∧ error = failureAt position cause) ∨
        lhs.Raises error ∨ rhs.Raises error

theorem eval_raises (maps : DiceMaps) (expr : Expr) :
    (expr.eval maps).Ends (fun _ => True) fun error => expr.Raises error := by
  induction expr with
  | literal l => trivial
  | group inner ih => exact ih
  | unary op position operand ih =>
      apply ih.bind
      · intro error raised
        exact .inr raised
      · intro value _
        have errors : (Plan.ofExcept (op.apply value)).ErrorsIn (fun _ => False) op.Failure :=
          .ofExcept (op.apply_fails value)
        have ends := errors.ends (fun _ impossible => impossible.elim) fun _ failure => failure
        apply ends.mapError (fun _ given => given)
        intro cause failure
        exact .inl ⟨cause, failure, rfl⟩
  | binary op position lhs rhs lhsIh rhsIh =>
      apply lhsIh.bind
      · intro error raised
        exact .inr (.inl raised)
      · intro left _
        apply rhsIh.bind
        · intro error raised
          exact .inr (.inr raised)
        · intro right _
          have ends : (op.apply maps left right).Ends (fun _ => True) op.Raises :=
            (op.apply_errors left right maps).ends (fun _ => .inr) fun _ => .inl
          have located : ((op.apply maps left right).mapError (failureAt position)).Ends
              (fun _ => True) fun error => (binary op position lhs rhs).Raises error := by
            apply ends.mapError (fun _ given => given)
            intro cause raised
            exact .inl ⟨cause, raised, rfl⟩
          exact located.bind (fun _ raised => raised) fun _ _ => trivial

theorem raises_of_run_error {σ : Type} [Roller σ] {expr : Expr} {maps : DiceMaps}
    {context : Context σ} {error : ReadError}
    (failed : ((expr.eval maps).run context).result = .error error) : expr.Raises error := by
  have ends := (expr.eval_raises maps).run context
  rw [failed] at ends
  exact ends

theorem raises_within {expr : Expr} {start : Nat} {error : ReadError}
    (placed : expr.PlacedAt start) (raised : expr.Raises error) :
    start ≤ error.position ∧ error.position < start + expr.tokens.length := by
  induction expr generalizing start with
  | literal l => exact raised.elim
  | group inner ih =>
      have inside := ih placed raised
      simp only [tokens, List.length_append, List.length_cons, List.length_nil]
      omega
  | unary op position operand ih =>
      obtain ⟨rfl, operandPlaced⟩ := placed
      simp only [tokens, List.length_cons]
      rcases raised with ⟨cause, _, rfl⟩ | inOperand
      · simp only [failureAt]
        omega
      · have inside := ih operandPlaced inOperand
        omega
  | binary op position lhs rhs lhsIh rhsIh =>
      obtain ⟨lhsPlaced, own, rhsPlaced⟩ := placed
      simp only [tokens, List.length_append, List.length_cons]
      rcases raised with ⟨cause, _, rfl⟩ | inLhs | inRhs
      · simp only [failureAt]
        omega
      · have inside := lhsIh lhsPlaced inLhs
        omega
      · have inside := rhsIh rhsPlaced inRhs
        omega

end Expr

/-- The class knows an operator by the symbol. -/
def OperatorClass.Knows (operatorClass : OperatorClass) (symbol : String) : Prop :=
  (∃ op, BinaryOperator.lookup? operatorClass symbol = some op) ∨
    operatorClass = .summary ∧ ∃ op, Summary.lookup? symbol = some op

/-- The error is one that the operator of this class and symbol can raise. -/
def RollError.ArisesAt (operatorClass : OperatorClass) (symbol : String) : RollError → Prop
  | tooManyRolls => operatorClass = .dice ∨ operatorClass = .poolGeneration
  | zeroDivision => operatorClass = .multiplicative ∧ symbol = "/"
  | zeroModulo =>
      operatorClass = .multiplicative ∧ symbol = "%" ∨ operatorClass = .pool ∧ symbol = "p%"
  | negativeExponent => operatorClass = .exponent ∧ symbol = "^"
  | operandKind own _ _ _ => own = symbol
  | unknownMap _ | unknownOutcome _ _ => operatorClass = .mapping ∧ symbol = "m"
  | overflow =>
      match operatorClass with
      | .additive | .multiplicative | .exponent => True
      | .dice => symbol ≠ "dh" ∧ symbol ≠ "dl"
      | .poolGeneration => symbol = "g!"
      | .pool => symbol = "p%"
      | .summary => symbol ≠ "N"
      | .comparison | .choice | .options | .tally | .mapping => False
  | badArgument _ =>
      match operatorClass with
      | .choice | .dice | .poolGeneration => True
      | .pool => symbol = "ph" ∨ symbol = "pl"
      | .summary => symbol = "C"
      | .additive | .multiplicative | .exponent | .comparison | .options | .tally
      | .mapping => False

theorem BinaryOperator.failure_arises {op : BinaryOperator} {cause : RollError}
    (failure : op.Failure cause) : cause.ArisesAt op.operatorClass op.symbol := by
  cases cause with
  | tooManyRolls => exact failure.elim
  | zeroDivision =>
      cases failure
      exact ⟨rfl, rfl⟩
  | zeroModulo =>
      rcases failure with rfl | rfl
      · exact .inl ⟨rfl, rfl⟩
      · exact .inr ⟨rfl, rfl⟩
  | negativeExponent =>
      cases failure
      exact ⟨rfl, rfl⟩
  | operandKind symbol side expected found => exact failure
  | unknownMap name =>
      cases failure
      exact ⟨rfl, rfl⟩
  | unknownOutcome name outcome =>
      cases failure
      exact ⟨rfl, rfl⟩
  | overflow =>
      cases op with
      | dice op =>
          obtain ⟨notHighest, notLowest⟩ := failure
          cases op with
          | highest => exact absurd rfl notHighest
          | lowest => exact absurd rfl notLowest
          | _ => exact ⟨by decide, by decide⟩
      | poolGeneration op =>
          cases failure
          rfl
      | pool op =>
          cases failure
          rfl
      | _ => exact failure
  | badArgument reason =>
      cases op with
      | pool op =>
          rcases failure with rfl | rfl
          · exact .inl rfl
          · exact .inr rfl
      | _ => exact failure

theorem Summary.failure_arises {op : Summary} {cause : RollError} (failure : op.Failure cause) :
    cause.ArisesAt .summary op.symbol := by
  cases cause with
  | overflow =>
      cases op with
      | count => exact absurd rfl failure
      | concatenate =>
          show "C" ≠ "N"
          decide
      | sum =>
          show "S" ≠ "N"
          decide
  | operandKind symbol side expected found => exact failure
  | badArgument reason =>
      cases failure
      rfl
  | _ => exact failure.elim

theorem Expr.raises_at_operator {expr : Expr} {tokens : List Token} {error : ReadError}
    (operators : expr.OperatorsIn tokens) (raised : expr.Raises error) :
    error.phase = .ended ∧ ∃ cause operatorClass symbol, error.problem = .roll cause ∧
      tokens[error.position]? = some (.operator operatorClass symbol) ∧
      operatorClass.Knows symbol ∧ cause.ArisesAt operatorClass symbol := by
  induction expr with
  | literal l => exact raised.elim
  | group inner ih => exact ih operators raised
  | unary op position operand ih =>
      obtain ⟨⟨symbol, found, known⟩, inOperand⟩ := operators
      rcases raised with ⟨cause, failure, rfl⟩ | raised
      · have own := Summary.lookup?_eq_some_iff.mp known
        subst own
        exact ⟨rfl, cause, .summary, op.symbol, rfl, found, .inr ⟨rfl, op, known⟩,
          Summary.failure_arises failure⟩
      · exact ih inOperand raised
  | binary op position lhs rhs lhsIh rhsIh =>
      obtain ⟨⟨operatorClass, symbol, found, known⟩, inLhs, inRhs⟩ := operators
      rcases raised with ⟨cause, raisedHere, rfl⟩ | raised | raised
      · obtain ⟨rfl, rfl⟩ := BinaryOperator.lookup?_eq_some_iff.mp known
        refine ⟨rfl, cause, op.operatorClass, op.symbol, rfl, found, .inl ⟨op, known⟩, ?_⟩
        rcases raisedHere with failure | ⟨rfl, rollsDice⟩
        · exact BinaryOperator.failure_arises failure
        · exact rollsDice
      · exact lhsIh inLhs raised
      · exact rhsIh inRhs raised

namespace Context

variable {σ : Type} [Roller σ]

theorem perform_rolls_error {rolls : List Roll} {index : Nat} {context : Context σ}
    {error : ReadError} (failed : (performRolls rolls index context).result = .error error) :
    ∃ before expr after values, rolls = before ++ .expression expr :: after ∧
      (performRolls before index context).result = .ok values ∧
      let reached := (performRolls before index context).context
      let last := (expr.eval reached.maps).run reached
      last.result = .error error ∧ (performRolls rolls index context).context = last.context := by
  induction rolls generalizing index context with
  | nil => cases failed
  | cons roll rest ih =>
      cases roll with
      | diceMap name map =>
          obtain ⟨before, expr, after, values, rfl, performed, stopped, left⟩ := ih failed
          exact ⟨.diceMap name map :: before, expr, after, values, rfl, performed, stopped, left⟩
      | expression expr =>
          rw [perform_expression] at failed ⊢
          cases evaluated : ((expr.eval context.maps).run context).result with
          | error other =>
              rw [Outcome.and_then_of_error evaluated] at failed ⊢
              cases failed
              exact ⟨[], expr, rest, [], rfl, rfl, evaluated, rfl⟩
          | ok value =>
              rw [Outcome.and_then_of_ok evaluated] at failed ⊢
              have later := Outcome.map_error_iff.mp failed
              obtain ⟨before, failing, after, values, rfl, performed, stopped, left⟩ := ih later
              have alsoBefore := perform_expression expr before index context
              rw [Outcome.and_then_of_ok evaluated] at alsoBefore
              have given : (performRolls (.expression expr :: before) index context).result =
                  .ok (value :: values) := by
                rw [alsoBefore]
                exact Outcome.map_ok_iff.mpr ⟨values, performed, rfl⟩
              refine ⟨.expression expr :: before, failing, after, value :: values, rfl, given, ?_⟩
              rw [alsoBefore]
              exact ⟨stopped, left⟩

/-- An error comes from an expression, behind rolls that have been performed, or it is the fault
of the reading, behind all of its rolls. -/
theorem perform_error_cases {context : Context σ} {reading : Reading} {error : ReadError}
    (failed : (context.perform reading).result = .error error) :
    (∃ before expr after values, reading.rolls = before ++ .expression expr :: after ∧
      (performRolls before 0 context).result = .ok values ∧
      let reached := (performRolls before 0 context).context
      let last := (expr.eval reached.maps).run reached
      last.result = .error error ∧ (context.perform reading).context = last.context) ∨
    (reading.fault = some error ∧ ∃ values,
      (performRolls reading.rolls 0 context).result = .ok values ∧
      (context.perform reading).context = (performRolls reading.rolls 0 context).context) := by
  rw [perform_and_then] at failed ⊢
  cases performed : (performRolls reading.rolls 0 context).result with
  | error other =>
      rw [Outcome.and_then_of_error performed] at failed ⊢
      cases failed
      exact .inl (perform_rolls_error performed)
  | ok values =>
      rw [Outcome.and_then_of_ok performed] at failed ⊢
      cases found : reading.fault with
      | none =>
          rw [found] at failed
          cases failed
      | some fault =>
          rw [found] at failed
          cases failed
          exact .inr ⟨rfl, values, rfl, rfl⟩

theorem evaluate_error_cases {context : Context σ} {tokens : List Token} {error : ReadError}
    (failed : (context.evaluate tokens).result = .error error) :
    (tokens = [] ∧ error = ⟨.emptyStream, .beforeStart, 0⟩ ∧
      (context.evaluate tokens).context = context) ∨
    (∃ before expr after values,
      (Reading.ofTokens tokens).rolls = before ++ .expression expr :: after ∧
      (performRolls before 0 context.resetRolls).result = .ok values ∧
      let reached := (performRolls before 0 context.resetRolls).context
      let last := (expr.eval reached.maps).run reached
      last.result = .error error ∧ (context.evaluate tokens).context = last.context) ∨
    ((Reading.ofTokens tokens).fault = some error ∧ ∃ values,
      let reached := performRolls (Reading.ofTokens tokens).rolls 0 context.resetRolls
      reached.result = .ok values ∧ (context.evaluate tokens).context = reached.context) := by
  by_cases empty : tokens = []
  · subst empty
    cases failed
    exact .inl ⟨rfl, rfl, rfl⟩
  · rw [evaluate_of_nonempty _ empty] at failed ⊢
    exact .inr (perform_error_cases (Outcome.map_error_iff.mp failed))

theorem fault_not_empty_stream {tokens : List Token} {fault : ReadError}
    (found : (Reading.ofTokens tokens).fault = some fault) : fault.problem ≠ .emptyStream := by
  intro isEmptyStream
  rcases Reading.go_on_fault_cases found with ⟨index, _, refuses⟩ | ⟨last, length, finished⟩
  · have isRefusal := refuses.2
    rw [isEmptyStream] at isRefusal
    exact isRefusal
  · rcases Reader.finish_error_cases finished with
      ⟨stack, _, rfl⟩ | ⟨stack, expr, opened, rest, _, _, rfl⟩
    · cases isEmptyStream
    · cases isEmptyStream

/-- An error of a roll is located at the token of an operator that can raise it. With any other
error nothing of the roll in which it lies has been evaluated: the context is the one that the
rolls in front of it leave behind. An empty list leaves everything as it is, the counter
included. -/
theorem errors_point_at_cause (context : Context σ) (tokens : List Token) {error : ReadError}
    (failed : (context.evaluate tokens).result = .error error) :
    (∀ cause, error.problem = .roll cause →
      error.phase = .ended ∧ error.position < tokens.length ∧
      ∃ operatorClass symbol,
        tokens[error.position]? = some (.operator operatorClass symbol) ∧
        operatorClass.Knows symbol ∧ cause.ArisesAt operatorClass symbol) ∧
    (tokens ≠ [] → (∀ cause, error.problem ≠ .roll cause) →
      ∃ rolls values, readRolls (tokensBeforeRoll error.position tokens) = .ok rolls ∧
        (performRolls rolls 0 context.resetRolls).result = .ok values ∧
        (context.evaluate tokens).context =
          (performRolls rolls 0 context.resetRolls).context) ∧
    (error.problem = .emptyStream →
      tokens = [] ∧ (context.evaluate tokens).context = context) := by
  rcases evaluate_error_cases failed with ⟨rfl, rfl, unchanged⟩ |
    ⟨before, expr, after, values, split, _, stopped, _⟩ | ⟨found, values, performed, left⟩
  · exact ⟨nofun, fun nonempty => absurd rfl nonempty, fun _ => ⟨rfl, unchanged⟩⟩
  · have member : Roll.expression expr ∈ (Reading.ofTokens tokens).rolls := by simp [split]
    have operators : expr.OperatorsIn tokens := Reading.operators_in_of_tokens tokens _ member
    obtain ⟨ended, cause, operatorClass, symbol, own, token, known, arises⟩ :=
      expr.raises_at_operator operators (Expr.raises_of_run_error stopped)
    refine ⟨fun other same => ?_, fun _ structural => absurd own (structural cause), ?_⟩
    · cases own.symm.trans same
      obtain ⟨inside, _⟩ := List.getElem?_eq_some_iff.mp token
      exact ⟨ended, inside, operatorClass, symbol, token, known, arises⟩
    · intro isEmptyStream
      cases own.symm.trans isEmptyStream
  · have structural := Reading.go_on_fault_structural found
    obtain ⟨writing, respects⟩ := Reading.of_tokens_interrupted found
    refine ⟨fun cause same => absurd same (structural cause), fun _ _ => ?_, fun isEmptyStream =>
      absurd isEmptyStream (fault_not_empty_stream found)⟩
    exact ⟨_, values, read_rolls_of_writing writing respects, performed, left⟩

/-- Behind a roll of one die: a division by zero, and a parenthesis that was never opened. -/
theorem errors_point_at_cause_division_and_parenthesis :
    let die : List Token := [.literal (.number 1), .operator .dice "d", .literal (.number 6)]
    let division : List Token :=
      die ++ [.delimiter, .literal (.number 4), .operator .multiplicative "/",
        .literal (.number 0)]
    let parenthesis : List Token :=
      die ++ [.delimiter, .literal (.number 4), .operator .dice "d", .literal (.number 6),
        .groupClose]
    let context : Context Replay := .new (.ofArray #[5]) none
    ((context.evaluate division).result = .error ⟨.roll .zeroDivision, .ended, 5⟩ ∧
      ∃ operatorClass symbol, division[5]? = some (.operator operatorClass symbol) ∧
        operatorClass.Knows symbol ∧ RollError.zeroDivision.ArisesAt operatorClass symbol) ∧
    (context.evaluate parenthesis).result =
        .error ⟨.unexpectedToken .groupClose TokenKind.continuationKinds, .value, 7⟩ ∧
      tokensBeforeRoll 7 parenthesis = die ++ [.delimiter] ∧
      (∃ rolls values, readRolls (tokensBeforeRoll 7 parenthesis) = .ok rolls ∧
        (performRolls rolls 0 context.resetRolls).result = .ok values ∧
        (context.evaluate parenthesis).context =
          (performRolls rolls 0 context.resetRolls).context) ∧
    (context.evaluate []).result = .error ⟨.emptyStream, .beforeStart, 0⟩ ∧
      (context.evaluate []).context = context := by
  intro die division parenthesis context
  have divided : (context.evaluate division).result =
      .error ⟨.roll .zeroDivision, .ended, 5⟩ := by
    simp only [division, context, die]
    rfl
  have refused : (context.evaluate parenthesis).result =
      .error ⟨.unexpectedToken .groupClose TokenKind.continuationKinds, .value, 7⟩ := by
    simp only [parenthesis, context, die]
    rfl
  have nothing : (context.evaluate []).result = .error ⟨.emptyStream, .beforeStart, 0⟩ := rfl
  obtain ⟨atOperator, _, _⟩ := errors_point_at_cause context division divided
  obtain ⟨_, beforeRoll, _⟩ := errors_point_at_cause context parenthesis refused
  obtain ⟨_, _, unchanged⟩ := errors_point_at_cause context [] nothing
  exact ⟨⟨divided, (atOperator _ rfl).2.2⟩, refused, rfl,
    beforeRoll (List.cons_ne_nil _ _) nofun, nothing, (unchanged rfl).2⟩

end Context

end DiceLang
