import DiceLang.Proofs.Reading.Frames

/-!
# What one step of the reader can do

For each state of the reader, the tokens that it takes and the state in which it goes on. A step
that is not listed here is refused. Laws about whole lists of tokens are derived from these
statements and do not look into the reader again.
-/

namespace DiceLang.Reader

set_option autoImplicit false

open DiceLang.Frame (reduce operandLevel admits_summary_iff reduce_zero_stack)

/-- An operand begins with a literal, a group, or a summary where the stack allows one. -/
theorem take_operand_ok_iff {stack : List Frame} {position : Nat} {token : Token}
    {next : Reader} :
    takeOperand stack position token = .ok next ↔
      (∃ l, token = .literal l ∧ next = holding stack (.literal l)) ∨
      (token = .groupOpen ∧ next = wanting (.group position :: stack)) ∨
      (∃ op : Summary, token = op.token ∧ operandLevel stack ≤ OperatorClass.summary.level ∧
        next = wanting (.unary op position :: stack)) := by
  rw [← admits_summary_iff]
  constructor
  · intro taken
    unfold takeOperand at taken
    split at taken
    · rename_i l
      exact .inl ⟨l, rfl, (Except.ok.inj taken).symm⟩
    · exact .inr (.inl ⟨rfl, (Except.ok.inj taken).symm⟩)
    · rename_i symbol
      split at taken
      · rename_i admitted
        split at taken
        · rename_i op found
          have sameSymbol := Summary.lookup?_eq_some_iff.mp found
          refine .inr (.inr ⟨op, ?_, admitted, (Except.ok.inj taken).symm⟩)
          rw [Summary.token, sameSymbol]
        · cases taken
      · cases taken
    · cases taken
    · cases taken
  · rintro (⟨l, rfl, rfl⟩ | ⟨rfl, rfl⟩ | ⟨op, rfl, admitted, rfl⟩)
    · rfl
    · rfl
    · have found : Summary.lookup? op.symbol = some op := Summary.lookup?_eq_some_iff.mpr rfl
      simp only [takeOperand, Summary.token, admitted, found, if_true]

/-- A binary operator closes the operators that bind at least as tightly, and waits. -/
theorem take_operator_ok_iff {stack : List Frame} {expr : Expr} {position : Nat}
    {operatorClass : OperatorClass} {symbol : String} {next : Reader} :
    takeOperator stack expr position operatorClass symbol = .ok next ↔
      ∃ op : BinaryOperator, Token.operator operatorClass symbol = op.token ∧
        next = wanting (.binary op position (reduce op.level stack expr).2 ::
          (reduce op.level stack expr).1) := by
  constructor
  · intro taken
    unfold takeOperator at taken
    split at taken
    · rename_i op found
      obtain ⟨rfl, rfl⟩ := BinaryOperator.lookup?_eq_some_iff.mp found
      exact ⟨op, rfl, (Except.ok.inj taken).symm⟩
    · cases taken
  · rintro ⟨op, own, rfl⟩
    obtain ⟨rfl, rfl⟩ := Token.operator.inj own
    have found : BinaryOperator.lookup? op.operatorClass op.symbol = some op :=
      BinaryOperator.lookup?_eq_some_iff.mpr ⟨rfl, rfl⟩
    simp only [takeOperator, found]

theorem take_end_ok_iff {stack : List Frame} {expr : Expr} {position : Nat} {token : Token}
    {next : Reader} {roll : Option Roll} :
    takeEnd stack expr position token = .ok (next, roll) ↔
      (∃ opened rest, (reduce 0 stack expr).1 = .group opened :: rest ∧ token = .groupClose ∧
        next = holding rest (.group (reduce 0 stack expr).2) ∧ roll = none) ∨
      ((reduce 0 stack expr).1 = [] ∧ token = .delimiter ∧ next = between ∧
        roll = some (.expression (reduce 0 stack expr).2)) := by
  have shape := reduce_zero_stack stack expr
  unfold takeEnd
  rcases reduced : reduce 0 stack expr with ⟨left, whole⟩
  rw [reduced] at shape
  constructor
  · intro taken
    rcases shape with empty | ⟨opened, rest, grouped⟩
    · subst empty
      cases token with
      | delimiter =>
          obtain ⟨sameNext, sameRoll⟩ := Prod.mk.inj (Except.ok.inj taken)
          exact .inr ⟨rfl, rfl, sameNext.symm, sameRoll.symm⟩
      | _ => cases taken
    · subst grouped
      cases token with
      | groupClose =>
          obtain ⟨sameNext, sameRoll⟩ := Prod.mk.inj (Except.ok.inj taken)
          exact .inl ⟨opened, rest, rfl, rfl, sameNext.symm, sameRoll.symm⟩
      | _ => cases taken
  · rintro (⟨opened, rest, grouped, rfl, rfl, rfl⟩ | ⟨empty, rfl, rfl, rfl⟩)
    · have sameLeft : left = .group opened :: rest := grouped
      rw [sameLeft]
    · have sameLeft : left = [] := empty
      rw [sameLeft]

theorem starts_roll_of_take_operand {stack : List Frame} {position : Nat} {token : Token}
    {next : Reader} (taken : takeOperand stack position token = .ok next) :
    token.kind.startsRoll = true := by
  rcases take_operand_ok_iff.mp taken with ⟨l, rfl, _⟩ | ⟨rfl, _⟩ | ⟨op, rfl, _⟩
  · cases l <;> rfl
  · rfl
  · rfl

/-- Before a roll begins, delimiters are skipped and a dice map stands alone; anything else has to
begin an operand. -/
theorem take_start_ok_iff {reader : Reader} {position : Nat} {token : Token} {next : Reader} :
    reader.takeStart position token = .ok next ↔
      (token = .delimiter ∧ next = between) ∨
      (∃ name diceMap, token = .diceMap name diceMap ∧ next = map name diceMap) ∨
      takeOperand [] position token = .ok next := by
  constructor
  · intro taken
    unfold takeStart at taken
    split at taken
    · exact .inl ⟨rfl, (Except.ok.inj taken).symm⟩
    · rename_i name diceMap
      exact .inr (.inl ⟨name, diceMap, rfl, (Except.ok.inj taken).symm⟩)
    · split at taken
      · exact .inr (.inr taken)
      · cases taken
  · rintro (⟨rfl, rfl⟩ | ⟨name, diceMap, rfl, rfl⟩ | taken)
    · rfl
    · rfl
    · unfold takeStart
      split
      · cases taken
      · cases taken
      · rw [if_pos (starts_roll_of_take_operand taken)]
        exact taken

private theorem map_without_roll_ok_iff {taken : Except ReadError Reader} {next : Reader}
    {roll : Option Roll} :
    taken.map (·, (none : Option Roll)) = .ok (next, roll) ↔ taken = .ok next ∧ roll = none := by
  cases taken <;> simp [Except.map, eq_comm]

/-- No roll has begun since the last delimiter, if there was one. -/
def Outside : Reader → Prop
  | start | between => True
  | _ => False

theorem start_outside : start.Outside := trivial

theorem between_outside : between.Outside := trivial

theorem step_outside_ok_iff {reader : Reader} (outside : reader.Outside) {position : Nat}
    {token : Token} {next : Reader} {roll : Option Roll} :
    reader.step position token = .ok (next, roll) ↔
      reader.takeStart position token = .ok next ∧ roll = none := by
  cases reader with
  | start => exact map_without_roll_ok_iff
  | between => exact map_without_roll_ok_iff
  | map name diceMap => exact outside.elim
  | wanting stack => exact outside.elim
  | holding stack expr => exact outside.elim

theorem finish_outside {reader : Reader} (outside : reader.Outside) (length : Nat) :
    reader.finish length = .ok none := by
  cases reader with
  | start => rfl
  | between => rfl
  | map name diceMap => exact outside.elim
  | wanting stack => exact outside.elim
  | holding stack expr => exact outside.elim

theorem step_wanting_ok_iff {stack : List Frame} {position : Nat} {token : Token}
    {next : Reader} {roll : Option Roll} :
    (wanting stack).step position token = .ok (next, roll) ↔
      takeOperand stack position token = .ok next ∧ roll = none :=
  map_without_roll_ok_iff

theorem step_map_ok_iff {name : String} {diceMap : DiceMap} {position : Nat} {token : Token}
    {next : Reader} {roll : Option Roll} :
    (map name diceMap).step position token = .ok (next, roll) ↔
      token = .delimiter ∧ next = between ∧ roll = some (.diceMap name diceMap) := by
  cases token <;> simp [step, error, eq_comm]

theorem step_holding_ok_iff {stack : List Frame} {expr : Expr} {position : Nat} {token : Token}
    {next : Reader} {roll : Option Roll} :
    (holding stack expr).step position token = .ok (next, roll) ↔
      (∃ op : BinaryOperator, token = op.token ∧
        next = wanting (.binary op position (reduce op.level stack expr).2 ::
          (reduce op.level stack expr).1) ∧ roll = none) ∨
      takeEnd stack expr position token = .ok (next, roll) := by
  constructor
  · intro taken
    simp only [step] at taken
    split at taken
    · exact .inr taken
    · obtain ⟨operator, noRoll⟩ := map_without_roll_ok_iff.mp taken
      obtain ⟨op, own, sameNext⟩ := take_operator_ok_iff.mp operator
      exact .inl ⟨op, own, sameNext, noRoll⟩
    · exact .inr taken
  · rintro (⟨op, own, sameNext, noRoll⟩ | ended)
    · -- No binary operator belongs to the class of summaries, whose tokens end an operand.
      have binaryClass : op.operatorClass ≠ .summary := by
        cases op <;> simp [BinaryOperator.operatorClass]
      rw [BinaryOperator.token] at own
      have operator := take_operator_ok_iff.mpr ⟨op, rfl, sameNext⟩
      simp only [step, own]
      exact map_without_roll_ok_iff.mpr ⟨operator, noRoll⟩
    · rcases take_end_ok_iff.mp ended with ⟨_, _, _, rfl, _⟩ | ⟨_, rfl, _⟩
      · exact ended
      · exact ended

theorem finish_holding_ok_iff {stack : List Frame} {expr : Expr} {length : Nat}
    {roll : Option Roll} :
    (holding stack expr).finish length = .ok roll ↔
      (reduce 0 stack expr).1 = [] ∧ roll = some (.expression (reduce 0 stack expr).2) := by
  have shape := reduce_zero_stack stack expr
  dsimp only [finish]
  rcases reduced : reduce 0 stack expr with ⟨left, whole⟩
  rw [reduced] at shape
  rcases shape with empty | ⟨opened, rest, grouped⟩
  · cases empty
    simp [eq_comm]
  · cases grouped
    simp [error]

theorem finish_error_cases {reader : Reader} {length : Nat} {fault : ReadError}
    (failed : reader.finish length = .error fault) :
    (∃ stack, reader = wanting stack ∧
      fault = ⟨.unexpectedEnd TokenKind.operandKinds, reader.phase, length⟩) ∨
    ∃ stack expr opened rest, reader = holding stack expr ∧
      (reduce 0 stack expr).1 = .group opened :: rest ∧
      fault = ⟨.unclosedGroup, .value, opened⟩ := by
  cases reader with
  | start => cases failed
  | between => cases failed
  | map name diceMap => cases failed
  | wanting stack => exact .inl ⟨stack, rfl, (Except.error.inj failed).symm⟩
  | holding stack expr =>
      simp only [finish] at failed
      split at failed
      · rename_i opened rest whole reduced
        exact .inr ⟨stack, expr, opened, rest, rfl, by rw [reduced],
          (Except.error.inj failed).symm⟩
      · cases failed

end DiceLang.Reader
