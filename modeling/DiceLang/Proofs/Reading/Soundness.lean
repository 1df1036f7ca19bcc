import DiceLang.Proofs.Reading.Steps
import DiceLang.Reading

/-!
# Every token of a list is accounted for

Between two tokens the reader remembers the tokens of the current roll and nothing else, so the
rolls that it hands out are written in the list one after the other, with delimiters between
them. The operators of the rolls remember the indices of their own tokens, and no operator takes
an operand that would have needed a group.
-/

namespace DiceLang

set_option autoImplicit false

open DiceLang.Frame (StackAt OperandAt stackTokens reduce operandLevel)

/-- The reader after the tokens `consumed` of a roll that begins at `start`. An operand is handed
to the operators that wait for it as late as possible, so the operand that is held is a literal or
a group. -/
inductive Reader.Reached (start : Nat) : List Token → Reader → Prop where
  | outside {reader : Reader} : reader.Outside → Reached start [] reader
  | map (name : String) (map : DiceMap) : Reached start [.diceMap name map] (.map name map)
  | wanting {stack : List Frame} :
      StackAt start stack → Reached start (stackTokens stack) (.wanting stack)
  | holding {stack : List Frame} {expr : Expr} :
      OperandAt start stack expr → expr.level = Expr.primaryLevel →
      Reached start (stackTokens stack ++ expr.tokens) (.holding stack expr)

/-- A roll that begins at `start`, with its tokens. -/
structure Roll.ReadAt (start : Nat) (tokens : List Token) (roll : Roll) : Prop where
  written : roll.tokens = tokens
  placed : roll.PlacedAt start
  respects : roll.RespectsPrecedence

namespace Reader

theorem reached_of_take_operand {start : Nat} {stack : List Frame} {token : Token}
    {next : Reader} (stackAt : StackAt start stack)
    (taken : takeOperand stack (start + (stackTokens stack).length) token = .ok next) :
    Reached start (stackTokens stack ++ [token]) next := by
  rcases take_operand_ok_iff.mp taken with ⟨l, rfl, rfl⟩ | ⟨rfl, rfl⟩ | ⟨op, rfl, tight, rfl⟩
  · have operand : OperandAt start stack (.literal l) := .of_primary stackAt trivial trivial rfl
    exact .holding operand rfl
  · exact .wanting (.group stackAt)
  · exact .wanting (.unary stackAt tight)

theorem reached_of_take_start {start : Nat} {reader next : Reader} {token : Token}
    (taken : reader.takeStart start token = .ok next) :
    (token = .delimiter ∧ next = between) ∨ Reached start [token] next := by
  rcases take_start_ok_iff.mp taken with skipped | ⟨name, diceMap, rfl, rfl⟩ | operand
  · exact .inl skipped
  · exact .inr (.map name diceMap)
  · exact .inr (reached_of_take_operand .empty operand)

theorem reached_of_take_operator {start : Nat} {stack : List Frame} {expr : Expr}
    (operand : OperandAt start stack expr) (primary : expr.level = Expr.primaryLevel)
    (op : BinaryOperator) :
    Reached start (stackTokens stack ++ expr.tokens ++ [op.token])
      (wanting (.binary op (start + (stackTokens stack ++ expr.tokens).length)
        (reduce op.level stack expr).2 :: (reduce op.level stack expr).1)) := by
  have binds : op.level ≤ expr.level := primary ▸ Nat.le_of_lt op.level_lt_primary
  have reduced := Frame.reduce_keeps_operand op.level operand
  rw [← Frame.reduce_keeps_tokens op.level stack expr, List.append_assoc]
  exact .wanting (.binary reduced.stackAt reduced.placed rfl reduced.respects
    (Frame.le_level_of_reduce op.level stack expr binds)
    (Frame.operand_level_of_reduce op.level stack expr))

theorem reached_of_close_group {start opened : Nat} {stack rest : List Frame} {expr inner : Expr}
    (operand : OperandAt start (.group opened :: rest) inner)
    (same : stackTokens (.group opened :: rest) ++ inner.tokens =
      stackTokens stack ++ expr.tokens) :
    Reached start (stackTokens stack ++ expr.tokens ++ [.groupClose])
      (holding rest (.group inner)) := by
  have written : stackTokens stack ++ expr.tokens ++ [.groupClose] =
      stackTokens rest ++ (Expr.group inner).tokens := by
    rw [← same]
    simp [stackTokens, Frame.tokens, Expr.tokens]
  rw [written]
  have placed : (Expr.group inner).PlacedAt (start + (stackTokens rest).length) := by
    simpa [stackTokens, Frame.tokens, Expr.PlacedAt, Nat.add_assoc] using operand.placed
  cases operand.stackAt with
  | group below => exact .holding (.of_primary below placed operand.respects rfl) rfl

theorem read_at_of_reduce {start : Nat} {stack : List Frame} {expr : Expr}
    (operand : OperandAt start stack expr) (empty : (reduce 0 stack expr).1 = []) :
    Roll.ReadAt start (stackTokens stack ++ expr.tokens)
      (.expression (reduce 0 stack expr).2) := by
  have reduced := Frame.reduce_keeps_operand 0 operand
  have tokens := Frame.reduce_keeps_tokens 0 stack expr
  rw [empty] at reduced tokens
  exact ⟨tokens, reduced.placed, reduced.respects⟩

/-- One step: a delimiter is skipped between rolls, or a delimiter completes the roll, or the
token is the next one of the roll. -/
theorem step_from_reached {start : Nat} {consumed : List Token} {reader next : Reader}
    {token : Token} {roll : Option Roll} (reached : Reached start consumed reader)
    (taken : reader.step (start + consumed.length) token = .ok (next, roll)) :
    (token = .delimiter ∧ next = between ∧ consumed = [] ∧ roll = none) ∨
    (token = .delimiter ∧ next = between ∧
      ∃ whole, roll = some whole ∧ whole.ReadAt start consumed) ∨
    (Reached start (consumed ++ [token]) next ∧ roll = none) := by
  cases reached with
  | outside isOutside =>
      obtain ⟨started, noRoll⟩ := (step_outside_ok_iff isOutside).mp taken
      rcases reached_of_take_start started with ⟨isDelimiter, between⟩ | reached
      · exact .inl ⟨isDelimiter, between, rfl, noRoll⟩
      · exact .inr (.inr ⟨reached, noRoll⟩)
  | map name diceMap =>
      obtain ⟨isDelimiter, between, handedOut⟩ := step_map_ok_iff.mp taken
      exact .inr (.inl ⟨isDelimiter, between, _, handedOut, rfl, trivial, trivial⟩)
  | wanting stackAt =>
      obtain ⟨operand, noRoll⟩ := step_wanting_ok_iff.mp taken
      exact .inr (.inr ⟨reached_of_take_operand stackAt operand, noRoll⟩)
  | @holding stack expr operand primary =>
      rcases step_holding_ok_iff.mp taken with ⟨op, rfl, rfl, noRoll⟩ | ended
      · exact .inr (.inr ⟨reached_of_take_operator operand primary op, noRoll⟩)
      · have reduced := Frame.reduce_keeps_operand 0 operand
        have sameTokens := Frame.reduce_keeps_tokens 0 stack expr
        rcases take_end_ok_iff.mp ended with
          ⟨opened, rest, grouped, rfl, rfl, noRoll⟩ | ⟨empty, isDelimiter, between, handedOut⟩
        · rw [grouped] at reduced sameTokens
          exact .inr (.inr ⟨reached_of_close_group reduced sameTokens, noRoll⟩)
        · exact .inr (.inl ⟨isDelimiter, between, _, handedOut,
            read_at_of_reduce operand empty⟩)

theorem finish_from_reached {start length : Nat} {consumed : List Token} {reader : Reader}
    {roll : Option Roll} (reached : Reached start consumed reader)
    (finished : reader.finish length = .ok roll) :
    (consumed = [] ∧ roll = none) ∨ ∃ whole, roll = some whole ∧ whole.ReadAt start consumed := by
  cases reached with
  | outside isOutside =>
      rw [finish_outside isOutside] at finished
      exact .inl ⟨rfl, (Except.ok.inj finished).symm⟩
  | map name diceMap =>
      exact .inr ⟨_, (Except.ok.inj finished).symm, rfl, trivial, trivial⟩
  | wanting stackAt => cases finished
  | @holding stack expr operand primary =>
      obtain ⟨empty, rfl⟩ := finish_holding_ok_iff.mp finished
      exact .inr ⟨_, rfl, read_at_of_reduce operand empty⟩

end Reader

/-- A list that is read to its end without a fault is a writing of the rolls that were handed
out. The tokens of the current roll have been read already, so the induction is on those still to
come. -/
theorem writing_of_go_on (start : Nat) (consumed : List Token) {tokens : List Token}
    {reader : Reader} (reached : reader.Reached start consumed)
    (clean : (Reading.goOn reader (start + consumed.length) tokens).fault = none) :
    Writing start (consumed ++ tokens)
        (Reading.goOn reader (start + consumed.length) tokens).rolls ∧
      ∀ roll ∈ (Reading.goOn reader (start + consumed.length) tokens).rolls,
        roll.RespectsPrecedence := by
  induction tokens generalizing start consumed reader with
  | nil =>
      rw [Reading.goOn] at clean ⊢
      split at clean
      · rename_i roll finished
        rcases Reader.finish_from_reached reached finished with
          ⟨rfl, rfl⟩ | ⟨whole, rfl, written, placed, respects⟩
        · exact ⟨.nothing start, by simp⟩
        · subst written
          simpa using ⟨Writing.last placed, respects⟩
      · cases clean
  | cons token tokens ih =>
      rw [Reading.goOn] at clean ⊢
      split at clean
      · rename_i next roll taken
        rcases Reader.step_from_reached reached taken with
          ⟨rfl, rfl, rfl, rfl⟩ | ⟨rfl, rfl, whole, rfl, written, placed, respects⟩ | ⟨onward, rfl⟩
        · have rest := ih (start + 1) [] (.outside Reader.between_outside) clean
          exact ⟨.delimiter rest.1, rest.2⟩
        · subst written
          have rest := ih (start + whole.tokens.length + 1) [] (.outside Reader.between_outside)
            clean
          refine ⟨.roll placed rest.1, ?_⟩
          intro roll member
          rcases List.mem_cons.mp member with rfl | later
          · exact respects
          · exact rest.2 roll later
        · have longer : start + consumed.length + 1 = start + (consumed ++ [token]).length := by
            simp [Nat.add_assoc]
          rw [longer] at clean ⊢
          have rest := ih start (consumed ++ [token]) onward clean
          rw [List.append_assoc] at rest
          exact rest
      · cases clean

theorem Expr.delimiter_not_mem_tokens (expr : Expr) : Token.delimiter ∉ expr.tokens := by
  induction expr with
  | literal l => simp [Expr.tokens]
  | group inner ih => simp [Expr.tokens, ih]
  | unary op position operand ih => simp [Expr.tokens, Summary.token, ih]
  | binary op position lhs rhs lhsIh rhsIh =>
      simp [Expr.tokens, BinaryOperator.token, lhsIh, rhsIh]

theorem Roll.tokens_without_delimiters (roll : Roll) :
    roll.tokens.filter (· ≠ .delimiter) = roll.tokens := by
  refine List.filter_eq_self.mpr fun token member => ?_
  have notDelimiter : token ≠ .delimiter := by
    rintro rfl
    cases roll with
    | diceMap name map => simp [Roll.tokens] at member
    | expression expr => exact expr.delimiter_not_mem_tokens member
  exact decide_eq_true notDelimiter

theorem Writing.tokens_without_delimiters {start : Nat} {tokens : List Token}
    {rolls : List Roll} (writing : Writing start tokens rolls) :
    tokens.filter (· ≠ .delimiter) = rolls.flatMap Roll.tokens := by
  induction writing with
  | nothing start => rfl
  | delimiter rest ih => simpa using ih
  | last placed => simpa using Roll.tokens_without_delimiters _
  | @roll start roll tokens rolls placed rest ih =>
      rw [List.filter_append, roll.tokens_without_delimiters, List.flatMap_cons, ← ih]
      simp

/-- Every operator stands in the list at the index that it remembers, and its class knows it by
the symbol that stands there. -/
def Expr.OperatorsIn (tokens : List Token) : Expr → Prop
  | literal _ => True
  | group inner => inner.OperatorsIn tokens
  | unary op position operand =>
      (∃ symbol, tokens[position]? = some (.operator .summary symbol) ∧
        Summary.lookup? symbol = some op) ∧
      operand.OperatorsIn tokens
  | binary op position lhs rhs =>
      (∃ operatorClass symbol, tokens[position]? = some (.operator operatorClass symbol) ∧
        BinaryOperator.lookup? operatorClass symbol = some op) ∧
      lhs.OperatorsIn tokens ∧ rhs.OperatorsIn tokens

def Roll.OperatorsIn (tokens : List Token) : Roll → Prop
  | diceMap _ _ => True
  | expression expr => expr.OperatorsIn tokens

theorem Expr.operators_in_of_placed {expr : Expr} {start : Nat} (placed : expr.PlacedAt start)
    (before after : List Token) (length : before.length = start) :
    expr.OperatorsIn (before ++ expr.tokens ++ after) := by
  induction expr generalizing start before after with
  | literal l => trivial
  | group inner ih =>
      have inside := ih placed (before ++ [.groupOpen]) (.groupClose :: after) (by simp [length])
      simpa [Expr.tokens, Expr.OperatorsIn] using inside
  | unary op position operand ih =>
      obtain ⟨rfl, operandPlaced⟩ := placed
      have inside := ih operandPlaced (before ++ [op.token]) after (by simp [length])
      refine ⟨⟨op.symbol, ?_, Summary.lookup?_eq_some_iff.mpr rfl⟩, ?_⟩
      · simp [Expr.tokens, Summary.token, ← length]
      · simpa [Expr.tokens] using inside
  | binary op position lhs rhs lhsIh rhsIh =>
      obtain ⟨lhsPlaced, own, rhsPlaced⟩ := placed
      have inLhs := lhsIh lhsPlaced before (op.token :: rhs.tokens ++ after) length
      have inRhs := rhsIh rhsPlaced (before ++ lhs.tokens ++ [op.token]) after
        (by simp [length, own, Nat.add_assoc])
      refine ⟨⟨op.operatorClass, op.symbol, ?_,
        BinaryOperator.lookup?_eq_some_iff.mpr ⟨rfl, rfl⟩⟩, ?_, ?_⟩
      · rw [own, ← length, ← List.length_append]
        simp [Expr.tokens, BinaryOperator.token]
      · simpa [Expr.tokens] using inLhs
      · simpa [Expr.tokens] using inRhs

theorem Roll.operators_in_of_placed {roll : Roll} {start : Nat} (placed : roll.PlacedAt start)
    (before after : List Token) (length : before.length = start) :
    roll.OperatorsIn (before ++ roll.tokens ++ after) := by
  cases roll with
  | diceMap name map => trivial
  | expression expr => exact Expr.operators_in_of_placed placed before after length

theorem Writing.operators_in {start : Nat} {tokens : List Token} {rolls : List Roll}
    (writing : Writing start tokens rolls) (before : List Token) (length : before.length = start) :
    ∀ roll ∈ rolls, roll.OperatorsIn (before ++ tokens) := by
  induction writing generalizing before with
  | nothing start => simp
  | delimiter rest ih =>
      have inRest := ih (before ++ [.delimiter]) (by simp [length])
      simpa using inRest
  | last placed =>
      have inLast := Roll.operators_in_of_placed placed before [] length
      simpa using inLast
  | @roll start first tokens rolls placed rest ih =>
      intro roll member
      rcases List.mem_cons.mp member with rfl | later
      · have inFirst := Roll.operators_in_of_placed placed before (.delimiter :: tokens) length
        simpa using inFirst
      · have inRest := ih (before ++ first.tokens ++ [.delimiter])
          (by simp [length, Nat.add_assoc]) roll later
        simpa using inRest

theorem reading_of_read_rolls {tokens : List Token} {rolls : List Roll}
    (read : readRolls tokens = .ok rolls) : Reading.ofTokens tokens = ⟨rolls, none⟩ := by
  unfold readRolls at read
  rcases reading : Reading.ofTokens tokens with ⟨found, fault⟩
  rw [reading] at read
  cases fault with
  | none =>
      have sameRolls : found = rolls := Except.ok.inj read
      rw [sameRolls]
  | some fault => cases read

theorem writing_of_read_rolls {tokens : List Token} {rolls : List Roll}
    (read : readRolls tokens = .ok rolls) :
    Writing 0 tokens rolls ∧ ∀ roll ∈ rolls, roll.RespectsPrecedence := by
  have reading := reading_of_read_rolls read
  have clean : (Reading.goOn .start (0 + ([] : List Token).length) tokens).fault = none :=
    congrArg Reading.fault reading
  have sameRolls : (Reading.goOn .start (0 + ([] : List Token).length) tokens).rolls = rolls :=
    congrArg Reading.rolls reading
  rw [← sameRolls]
  exact writing_of_go_on 0 [] (.outside Reader.start_outside) clean

/-- The rolls that are read from a list account for all of its tokens but the delimiters, exactly
once and in order; their operators stand where they say they do, and precedence is respected. -/
theorem rolls_account_for_tokens {tokens : List Token} {rolls : List Roll}
    (read : readRolls tokens = .ok rolls) :
    tokens.filter (· ≠ .delimiter) = rolls.flatMap Roll.tokens ∧
      Writing 0 tokens rolls ∧
      ∀ roll ∈ rolls, roll.OperatorsIn tokens ∧ roll.RespectsPrecedence := by
  obtain ⟨writing, respects⟩ := writing_of_read_rolls read
  have operators := writing.operators_in [] rfl
  exact ⟨writing.tokens_without_delimiters, writing,
    fun roll member => ⟨operators roll member, respects roll member⟩⟩

/-- A map, a summary of a changed pool plus a group, and delimiters in excess. -/
theorem rolls_account_for_tokens_map_and_sum :
    let map := DiceMap.ofList [(1, "miss"), (6, "hit")]
    let tokens : List Token :=
      [.delimiter, .diceMap "fate" map, .delimiter, .delimiter,
        .operator .summary "S", .literal (.number 5), .operator .poolGeneration "g",
        .literal (.number 6), .operator .pool "ph", .literal (.number 3),
        .operator .additive "+", .groupOpen, .literal (.number 1), .operator .dice "d",
        .literal (.number 4), .groupClose, .delimiter]
    let rolls : List Roll :=
      [.diceMap "fate" map,
        .expression (.binary (.additive .add) 10
          (.unary .sum 4 (.binary (.pool .keepHigh) 8
            (.binary (.poolGeneration .plain) 6 (.literal (.number 5)) (.literal (.number 6)))
            (.literal (.number 3))))
          (.group (.binary (.dice .total) 13 (.literal (.number 1)) (.literal (.number 4)))))]
    readRolls tokens = .ok rolls ∧
      tokens.filter (· ≠ .delimiter) = rolls.flatMap Roll.tokens ∧
      Writing 0 tokens rolls ∧
      ∀ roll ∈ rolls, roll.OperatorsIn tokens ∧ roll.RespectsPrecedence := by
  intro map tokens rolls
  have read : readRolls tokens = .ok rolls := by rfl
  exact ⟨read, rolls_account_for_tokens read⟩

end DiceLang
