import DiceLang.Proofs.Plans

/-!
# Static kinds tell what evaluation gives

An operator that takes the kinds of its operands gives a value of its result kind, or fails for
another reason than their kinds; an operator that does not take them gives nothing. Both follow
expressions from the literals up, so the static kind of an expression is the kind of everything it
evaluates to, and an expression without one never evaluates to anything.
-/

namespace DiceLang

set_option autoImplicit false

def RollError.IsOperandKind : RollError → Prop
  | operandKind _ _ _ _ => True
  | _ => False

def ReadError.IsOperandKind (error : ReadError) : Prop :=
  ∃ symbol side expected found, error.problem = .roll (.operandKind symbol side expected found)

theorem ReadError.is_operand_kind_of_failure {position : Nat} {error : RollError}
    (isKind : (Expr.failureAt position error).IsOperandKind) : error.IsOperandKind := by
  obtain ⟨symbol, side, expected, found, same⟩ := isKind
  rw [Problem.roll.inj same]
  trivial

/-- Only values of this kind are given, and operands are found to be of a wrong kind only if there
is no such kind. -/
def Plan.HasKind (kind : Option ValueKind) (plan : Plan RollError Value) : Prop :=
  plan.Ends (fun value => kind = some value.kind) fun error => error.IsOperandKind → kind = none

theorem Plan.ofExcept_bind {ε α β : Type} (given : Except ε α) (next : α → Except ε β) :
    Plan.ofExcept (given >>= next) =
      Plan.ofExcept given >>= fun value => Plan.ofExcept (next value) := by
  cases given <;> rfl

/-- The operand is taken if it is of this kind, and only then. -/
def TakesKind {β : Type} (kind : ValueKind) (take : Value → Except RollError β) : Prop :=
  ∀ value, (∃ b, take value = .ok b) ↔ value.kind = kind

theorem TakesKind.refused {β : Type} {kind : ValueKind} {take : Value → Except RollError β}
    (takes : TakesKind kind take) {value : Value} {error : RollError}
    (failed : take value = .error error) : value.kind ≠ kind := by
  intro same
  obtain ⟨b, taken⟩ := (takes value).mpr same
  cases failed.symm.trans taken

namespace Value

variable (symbol : String) (side : Side)

theorem as_number_takes : TakesKind .number (asNumber symbol side) := by
  intro value
  cases value <;> simp [asNumber, kind]

theorem as_boolean_takes : TakesKind .boolean (asBoolean symbol side) := by
  intro value
  cases value <;> simp [asBoolean, kind]

theorem as_pool_takes : TakesKind .pool (asPool symbol side) := by
  intro value
  cases value <;> simp [asPool, kind]

theorem as_qualifier_takes : TakesKind .qualifier (asQualifier symbol side) := by
  intro value
  cases value <;> simp [asQualifier, kind]

theorem as_qualifiers_takes : TakesKind .qualifiers (asQualifiers symbol side) := by
  intro value
  cases value <;> simp [asQualifiers, kind]

end Value

section Operands

variable {β γ : Type} {leftKind rightKind : ValueKind} {operatorClass : OperatorClass}
  {first : Value → Except RollError β} {second : Value → Except RollError γ}

/-- Both operands are of the kinds that are taken, or one of them is refused and the class has no
kind for the two. -/
theorem operands_kind (left : TakesKind leftKind first) (right : TakesKind rightKind second)
    (others : ∀ {left right}, ¬(left = leftKind ∧ right = rightKind) →
      operatorClass.resultKind left right = none)
    {next : β → γ → Plan RollError Value}
    (onward : ∀ b c, (next b c).HasKind (operatorClass.resultKind leftKind rightKind))
    (lhs rhs : Value) :
    (Plan.ofExcept (first lhs) >>= fun b =>
      Plan.ofExcept (second rhs) >>= fun c => next b c).HasKind
        (operatorClass.resultKind lhs.kind rhs.kind) := by
  cases taken : first lhs with
  | error error =>
      exact fun _ => others fun same => left.refused taken same.1
  | ok b =>
      have leftSame := (left lhs).mp ⟨b, taken⟩
      cases alsoTaken : second rhs with
      | error error =>
          exact fun _ => others fun same => right.refused alsoTaken same.2
      | ok c =>
          have rightSame := (right rhs).mp ⟨c, alsoTaken⟩
          rw [leftSame, rightSame]
          exact onward b c

theorem operands_kind_diceless (left : TakesKind leftKind first)
    (right : TakesKind rightKind second)
    (others : ∀ {left right}, ¬(left = leftKind ∧ right = rightKind) →
      operatorClass.resultKind left right = none)
    {next : β → γ → Except RollError Value}
    (onward : ∀ b c, (Plan.ofExcept (next b c)).HasKind
      (operatorClass.resultKind leftKind rightKind))
    (lhs rhs : Value) :
    (Plan.ofExcept (first lhs >>= fun b => second rhs >>= fun c => next b c)).HasKind
      (operatorClass.resultKind lhs.kind rhs.kind) := by
  simp only [Plan.ofExcept_bind]
  exact operands_kind left right others onward lhs rhs

end Operands

namespace OperatorClass

/-- The kinds of the two operands that a class takes. Mappings take pools as well as numbers, and a
summary takes one operand only. -/
def takenKinds : OperatorClass → ValueKind × ValueKind
  | pool | tally => (.pool, .number)
  | options => (.qualifier, .qualifier)
  | choice => (.boolean, .qualifiers)
  | mapping => (.number, .qualifier)
  | _ => (.number, .number)

theorem result_kind_of_others (operatorClass : OperatorClass)
    (notMapping : operatorClass ≠ .mapping) {left right : ValueKind}
    (others : ¬(left = operatorClass.takenKinds.1 ∧ right = operatorClass.takenKinds.2)) :
    operatorClass.resultKind left right = none := by
  unfold resultKind
  split
  case h_11 => exact absurd rfl notMapping
  case h_12 => exact absurd rfl notMapping
  case h_13 => rfl
  all_goals exact absurd ⟨rfl, rfl⟩ others

end OperatorClass

open OperatorClass (result_kind_of_others)

/-- Where both operands are of the right kind, the operation on what they hold knows nothing of
kinds. -/
theorem BinaryOperator.apply_kind (maps : DiceMaps) (op : BinaryOperator) (lhs rhs : Value) :
    (op.apply maps lhs rhs).HasKind (op.operatorClass.resultKind lhs.kind rhs.kind) := by
  cases op with
  | additive op =>
      apply operands_kind_diceless (Value.as_number_takes _ _) (Value.as_number_takes _ _)
        (result_kind_of_others .additive nofun)
      intro a b
      exact .ofExcept (.bind_pure (op.apply_fails nofun a b) fun _ => rfl)
  | multiplicative op =>
      apply operands_kind_diceless (Value.as_number_takes _ _) (Value.as_number_takes _ _)
        (result_kind_of_others .multiplicative nofun)
      intro a b
      exact .ofExcept (.bind_pure
        (Multiplicative.apply_fails (fun _ => nofun) (fun _ => nofun) nofun a b) fun _ => rfl)
  | power =>
      apply operands_kind_diceless (Value.as_number_takes _ _) (Value.as_number_takes _ _)
        (result_kind_of_others .exponent nofun)
      intro base exponent
      exact .ofExcept (.bind_pure (Integer.power_fails nofun nofun base exponent) fun _ => rfl)
  | comparison op =>
      apply operands_kind_diceless (Value.as_number_takes _ _) (Value.as_number_takes _ _)
        (result_kind_of_others .comparison nofun)
      exact fun a b => rfl
  | options =>
      apply operands_kind_diceless (Value.as_qualifier_takes _ _) (Value.as_qualifier_takes _ _)
        (result_kind_of_others .options nofun)
      exact fun first second => rfl
  | choice =>
      apply operands_kind_diceless (Value.as_boolean_takes _ _) (Value.as_qualifiers_takes _ _)
        (result_kind_of_others .choice nofun)
      intro condition offered
      exact .ofExcept (.bind_pure (Choice.choose_fails (fun _ => nofun) condition offered)
        fun _ => rfl)
  | dice op =>
      apply operands_kind (Value.as_number_takes _ _) (Value.as_number_takes _ _)
        (result_kind_of_others .dice nofun)
      intro count size
      exact .bind_pure
        (DiceRoll.apply_errors nofun (fun _ _ => nofun) (fun _ => nofun) count size) fun _ => rfl
  | poolGeneration op =>
      apply operands_kind (Value.as_number_takes _ _) (Value.as_number_takes _ _)
        (result_kind_of_others .poolGeneration nofun)
      intro count size
      exact .bind_pure
        (PoolRoll.apply_errors nofun (fun _ => nofun) (fun _ => nofun) count size) fun _ => rfl
  | pool op =>
      apply operands_kind_diceless (Value.as_pool_takes _ _) (Value.as_number_takes _ _)
        (result_kind_of_others .pool nofun)
      intro members x
      exact .ofExcept (.bind_pure
        (PoolChange.apply_fails (fun _ => nofun) (fun _ => nofun) (fun _ _ => nofun) members x)
        fun _ => rfl)
  | tally op =>
      apply operands_kind_diceless (Value.as_pool_takes _ _) (Value.as_number_takes _ _)
        (result_kind_of_others .tally nofun)
      exact fun members target => rfl
  | mapping =>
      -- The name decides first: a left operand of any kind is refused together with a bad name.
      cases rhs with
      | qualifier name =>
          cases lhs with
          | number outcome =>
              exact .ofExcept (.map (maps.qualify_fails nofun (fun _ => nofun) outcome)
                fun _ => rfl)
          | pool members =>
              exact .ofExcept (.map (.mapM (maps.qualify_fails nofun fun _ => nofun) members)
                fun _ => rfl)
          | _ => exact fun _ => rfl
      | _ => cases lhs <;> exact fun _ => rfl

theorem Summary.apply_kind (op : Summary) (operand : Value) :
    (Plan.ofExcept (op.apply operand)).HasKind
      (if operand.kind = .pool then some .number else none) := by
  cases operand with
  | pool members =>
      exact .ofExcept (.bind_pure
        (Summary.apply_to_pool_fails (fun _ => nofun) (fun _ _ => nofun) members) fun _ => rfl)
  | _ => exact fun _ => rfl

theorem Literal.value_kind (l : Literal) : l.value.kind = l.kind := by
  cases l with
  | number n => rfl
  | boolean b => rfl
  | pool members => rfl
  | qualifier text => rfl

/-- The static kind is right. Errors of operands are those of the whole, so an operand that is
found to be of a wrong kind inside leaves the whole without a kind. -/
theorem Expr.eval_kind (maps : DiceMaps) (expr : Expr) :
    (expr.eval maps).Ends (fun value => expr.staticKind = some value.kind) fun error =>
      error.IsOperandKind → expr.staticKind = none := by
  induction expr with
  | literal l => exact congrArg some l.value_kind.symm
  | group inner ih => exact ih
  | unary op position operand ih =>
      apply ih.bind
      · intro error wrong isKind
        rw [staticKind, wrong isKind, if_neg nofun]
      · intro value known
        have whole : (unary op position operand).staticKind =
            if value.kind = .pool then some .number else none := by
          simp only [staticKind, known, Option.some.injEq]
        rw [whole]
        apply (op.apply_kind value).mapError
        · exact fun _ given => given
        · exact fun _ failed isKind => failed (ReadError.is_operand_kind_of_failure isKind)
  | binary op position lhs rhs lhsIh rhsIh =>
      apply lhsIh.bind
      · intro error wrong isKind
        rw [staticKind, wrong isKind]
        rfl
      · intro left leftKnown
        apply rhsIh.bind
        · intro error wrong isKind
          rw [staticKind, leftKnown, wrong isKind]
          rfl
        · intro right rightKnown
          have whole : (binary op position lhs rhs).staticKind =
              op.operatorClass.resultKind left.kind right.kind := by
            rw [staticKind, leftKnown, rightKnown]
            rfl
          rw [whole]
          have applied : ((op.apply maps left right).mapError (failureAt position)).Ends
              (fun value => op.operatorClass.resultKind left.kind right.kind = some value.kind)
              fun error => error.IsOperandKind →
                op.operatorClass.resultKind left.kind right.kind = none := by
            apply (op.apply_kind maps left right).mapError
            · exact fun _ given => given
            · exact fun _ failed isKind => failed (ReadError.is_operand_kind_of_failure isKind)
          exact applied.bind (fun _ failed => failed) fun _ given => given

theorem OperatorClass.result_kind_ne_compound (operatorClass : OperatorClass)
    (left right : ValueKind) : operatorClass.resultKind left right ≠ some .compound := by
  unfold resultKind
  split <;> nofun

theorem Expr.static_kind_ne_compound (expr : Expr) : expr.staticKind ≠ some .compound := by
  induction expr with
  | literal l => cases l <;> nofun
  | group inner ih => exact ih
  | unary op position operand ih =>
      rw [staticKind]
      split <;> nofun
  | binary op position lhs rhs lhsIh rhsIh =>
      intro whole
      obtain ⟨left, _, applied⟩ := Option.bind_eq_some_iff.mp whole
      obtain ⟨right, _, applied⟩ := Option.bind_eq_some_iff.mp applied
      exact op.operatorClass.result_kind_ne_compound left right applied

/-- An expression with a static kind never fails on the kind of an operand, and gives values of
that kind only; an expression without one gives no value in any context. -/
theorem Expr.static_kind_exact {σ : Type} [Roller σ] (expr : Expr) (context : Context σ) :
    let result := ((expr.eval context.maps).run context).result
    (∀ kind, expr.staticKind = some kind →
      (∀ error symbol side expected found, result = .error error →
        error.problem ≠ .roll (.operandKind symbol side expected found)) ∧
      ∀ value, result = .ok value → value.kind = kind) ∧
    (expr.staticKind = none → ∀ value, result ≠ .ok value) := by
  intro result
  have ends : ResultEnds (fun value => expr.staticKind = some value.kind)
      (fun error => error.IsOperandKind → expr.staticKind = none) result :=
    (expr.eval_kind context.maps).run context
  constructor
  · intro kind known
    constructor
    · intro error symbol side expected found failed same
      rw [failed] at ends
      have unknown := ends ⟨symbol, side, expected, found, same⟩
      cases known.symm.trans unknown
    · intro value given
      rw [given] at ends
      exact Option.some.inj (ends.symm.trans known)
  · intro unknown value given
    rw [given] at ends
    cases unknown.symm.trans ends

/-- The sum of a pool is a number; a pool to which a number is added is nothing. -/
theorem Expr.static_kind_exact_pool_and_sum :
    let pool : Expr :=
      .binary (.poolGeneration .plain) 1 (.literal (.number 2)) (.literal (.number 6))
    let sum : Expr := .unary .sum 0 pool
    let mixed : Expr := .binary (.additive .add) 3 pool (.literal (.number 1))
    sum.staticKind = some .number ∧ mixed.staticKind = none ∧
      ∀ context : Context Replay,
        (∀ value, ((sum.eval context.maps).run context).result = .ok value →
          value.kind = .number) ∧
        ∀ value, ((mixed.eval context.maps).run context).result ≠ .ok value := by
  intro pool sum mixed
  have sumKind : sum.staticKind = some .number := rfl
  have mixedKind : mixed.staticKind = none := rfl
  refine ⟨sumKind, mixedKind, fun context => ⟨?_, ?_⟩⟩
  · exact ((static_kind_exact sum context).1 .number sumKind).2
  · exact (static_kind_exact mixed context).2 mixedKind

end DiceLang
