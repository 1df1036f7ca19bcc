import DiceLang.Expr.Precedence
import DiceLang.Reader

/-!
# What a stack of frames remembers

A stack remembers every token since the roll began, in order, and where each of its operators
stood. It also says how tightly the operand that it waits for has to bind. Handing operands over
changes the shape of the stack, but neither the tokens it remembers nor their places, and it never
builds an expression that would have needed a group.
-/

namespace DiceLang

set_option autoImplicit false

theorem BinaryOperator.level_ne_summary (op : BinaryOperator) :
    op.level ≠ OperatorClass.summary.level := by
  cases op <;> simp [BinaryOperator.level, BinaryOperator.operatorClass, OperatorClass.level]

theorem BinaryOperator.level_lt_primary (op : BinaryOperator) : op.level < Expr.primaryLevel :=
  op.operatorClass.level_lt_primaryLevel

namespace Frame

def tokens : Frame → List Token
  | group _ => [.groupOpen]
  | unary op _ => [op.token]
  | binary op _ lhs => lhs.tokens ++ [op.token]

/-- The innermost frame is the first of the stack and was read last. -/
def stackTokens : List Frame → List Token
  | [] => []
  | frame :: rest => stackTokens rest ++ frame.tokens

/-- The least level of an operand that may stand on the stack. -/
def operandLevel : List Frame → Nat
  | [] => 0
  | group _ :: _ => 0
  | unary _ _ :: _ => OperatorClass.summary.level
  | binary op _ _ :: _ => op.level + 1

theorem operand_level_le_primary (stack : List Frame) :
    operandLevel stack ≤ Expr.primaryLevel := by
  match stack with
  | [] => exact Nat.zero_le _
  | group _ :: _ => exact Nat.zero_le _
  | unary _ _ :: _ => exact Nat.le_of_lt (OperatorClass.level_lt_primaryLevel .summary)
  | binary op _ _ :: _ => exact op.level_lt_primary

theorem admits_summary_iff (stack : List Frame) :
    admitsSummary stack = true ↔ operandLevel stack ≤ OperatorClass.summary.level := by
  match stack with
  | [] => simp [admitsSummary, operandLevel]
  | group _ :: _ => simp [admitsSummary, operandLevel]
  | unary _ _ :: _ => simp [admitsSummary, operandLevel]
  | binary op _ _ :: _ =>
      simp only [admitsSummary, operandLevel, decide_eq_true_eq]
      omega

/-- The stack belongs to a roll that begins at `start`: each frame remembers its place, and an
operator may stand where the frame below it wants an operand. -/
inductive StackAt (start : Nat) : List Frame → Prop where
  | empty : StackAt start []
  | group {stack : List Frame} :
      StackAt start stack → StackAt start (.group (start + (stackTokens stack).length) :: stack)
  | unary {stack : List Frame} {op : Summary} :
      StackAt start stack → operandLevel stack ≤ OperatorClass.summary.level →
      StackAt start (.unary op (start + (stackTokens stack).length) :: stack)
  | binary {stack : List Frame} {op : BinaryOperator} {position : Nat} {lhs : Expr} :
      StackAt start stack → lhs.PlacedAt (start + (stackTokens stack).length) →
      position = start + (stackTokens stack ++ lhs.tokens).length →
      lhs.RespectsPrecedence → op.level ≤ lhs.level → operandLevel stack ≤ op.level →
      StackAt start (.binary op position lhs :: stack)

/-- A complete operand on a stack: it has its place behind the stack's tokens, and it binds as
tightly as the stack wants. -/
structure OperandAt (start : Nat) (stack : List Frame) (expr : Expr) : Prop where
  stackAt : StackAt start stack
  placed : expr.PlacedAt (start + (stackTokens stack).length)
  respects : expr.RespectsPrecedence
  tight : operandLevel stack ≤ expr.level

theorem OperandAt.of_primary {start : Nat} {stack : List Frame} {expr : Expr}
    (stackAt : StackAt start stack)
    (placed : expr.PlacedAt (start + (stackTokens stack).length))
    (respects : expr.RespectsPrecedence) (primary : expr.level = Expr.primaryLevel) :
    OperandAt start stack expr :=
  ⟨stackAt, placed, respects, primary ▸ operand_level_le_primary stack⟩

theorem OperandAt.join_binary {start position : Nat} {stack : List Frame} {op : BinaryOperator}
    {lhs rhs : Expr} (operand : OperandAt start (.binary op position lhs :: stack) rhs) :
    OperandAt start stack (.binary op position lhs rhs) := by
  obtain ⟨stackAt, placed, respects, tight⟩ := operand
  cases stackAt with
  | binary below lhsPlaced own lhsRespects lhsTight belowTight =>
      have rhsTight : op.level < rhs.level := tight
      refine ⟨below, ⟨lhsPlaced, ?_, ?_⟩, ⟨lhsTight, rhsTight, lhsRespects, respects⟩, belowTight⟩
      · rw [own, List.length_append, Nat.add_assoc]
      · have behind : position + 1 =
            start + (stackTokens (.binary op position lhs :: stack)).length := by
          simp only [stackTokens, Frame.tokens, List.length_append, List.length_singleton] at own ⊢
          omega
        rw [behind]
        exact placed

theorem OperandAt.join_unary {start position : Nat} {stack : List Frame} {op : Summary}
    {operand : Expr} (whole : OperandAt start (.unary op position :: stack) operand) :
    OperandAt start stack (.unary op position operand) := by
  obtain ⟨stackAt, placed, respects, tight⟩ := whole
  cases stackAt with
  | unary below belowTight =>
      refine ⟨below, ⟨rfl, ?_⟩, ⟨tight, respects⟩, belowTight⟩
      simpa [stackTokens, Frame.tokens, Nat.add_assoc] using placed

theorem reduce_keeps_tokens (level : Nat) (stack : List Frame) (expr : Expr) :
    stackTokens (reduce level stack expr).1 ++ (reduce level stack expr).2.tokens =
      stackTokens stack ++ expr.tokens := by
  fun_induction reduce level stack expr with
  | case1 expr op position lhs rest binds ih =>
      rw [ih]
      simp [stackTokens, Frame.tokens, Expr.tokens]
  | case2 expr op position lhs rest loose => rfl
  | case3 expr op position rest binds ih =>
      rw [ih]
      simp [stackTokens, Frame.tokens, Expr.tokens]
  | case4 expr op position rest loose => rfl
  | case5 stack expr noBinary noUnary => rfl

theorem reduce_keeps_operand {start : Nat} (level : Nat) {stack : List Frame} {expr : Expr}
    (operand : OperandAt start stack expr) :
    OperandAt start (reduce level stack expr).1 (reduce level stack expr).2 := by
  fun_induction reduce level stack expr with
  | case1 expr op position lhs rest binds ih => exact ih operand.join_binary
  | case2 expr op position lhs rest loose => exact operand
  | case3 expr op position rest binds ih => exact ih operand.join_unary
  | case4 expr op position rest loose => exact operand
  | case5 stack expr noBinary noUnary => exact operand

/-- Only operators that bind at least as tightly as `level` take the operand, so what they make
binds at least that tightly too. -/
theorem le_level_of_reduce (level : Nat) (stack : List Frame) (expr : Expr)
    (tight : level ≤ expr.level) : level ≤ (reduce level stack expr).2.level := by
  fun_induction reduce level stack expr with
  | case1 expr op position lhs rest binds ih => exact ih binds
  | case2 expr op position lhs rest loose => exact tight
  | case3 expr op position rest binds ih => exact ih binds
  | case4 expr op position rest loose => exact tight
  | case5 stack expr noBinary noUnary => exact tight

theorem operand_level_of_reduce (level : Nat) (stack : List Frame) (expr : Expr) :
    operandLevel (reduce level stack expr).1 ≤ level := by
  fun_induction reduce level stack expr with
  | case1 expr op position lhs rest binds ih => exact ih
  | case2 expr op position lhs rest loose => exact Nat.lt_of_not_le loose
  | case3 expr op position rest binds ih => exact ih
  | case4 expr op position rest loose => exact Nat.le_of_not_le loose
  | case5 stack expr noBinary noUnary =>
      match stack with
      | [] => exact Nat.zero_le _
      | group _ :: _ => exact Nat.zero_le _
      | unary op position :: rest => exact absurd rfl (noUnary op position rest)
      | binary op position lhs :: rest => exact absurd rfl (noBinary op position lhs rest)

/-- At the end of a group or of a roll no operator is left waiting. -/
theorem reduce_zero_stack (stack : List Frame) (expr : Expr) :
    (reduce 0 stack expr).1 = [] ∨
      ∃ position rest, (reduce 0 stack expr).1 = group position :: rest := by
  fun_induction reduce 0 stack expr with
  | case1 expr op position lhs rest binds ih => exact ih
  | case2 expr op position lhs rest loose => exact absurd (Nat.zero_le _) loose
  | case3 expr op position rest binds ih => exact ih
  | case4 expr op position rest loose => exact absurd (Nat.zero_le _) loose
  | case5 stack expr noBinary noUnary =>
      match stack with
      | [] => exact .inl rfl
      | group position :: rest => exact .inr ⟨position, rest, rfl⟩
      | unary op position :: rest => exact absurd rfl (noUnary op position rest)
      | binary op position lhs :: rest => exact absurd rfl (noBinary op position lhs rest)

end Frame

end DiceLang
