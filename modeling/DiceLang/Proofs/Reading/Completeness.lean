import DiceLang.Proofs.Reading.Prefixes

/-!
# Reading undoes writing

An expression that respects precedence is read back from its tokens wherever the stack allows an
operand of its level, whatever follows. Behind its last token the operators on its right edge
still wait, because a tighter operator might follow; they take their operands as soon as an
operator that binds no tighter, or the end of the group or of the roll, is read.

A list of tokens is therefore a writing of at most one list of rolls that respect precedence, and
these are the rolls that reading gives.
-/

namespace DiceLang

set_option autoImplicit false

open DiceLang.Frame (reduce operandLevel)

/-- The stack and the operand behind the last token of an expression that was read onto a stack:
the operators on the right edge of the expression wait for that operand. -/
def Expr.rightEdge (stack : List Frame) : Expr → List Frame × Expr
  | literal l => (stack, .literal l)
  | group inner => (stack, .group inner)
  | unary op position operand => operand.rightEdge (.unary op position :: stack)
  | binary op position lhs rhs => rhs.rightEdge (.binary op position lhs :: stack)

namespace Frame

/-- The operators on the right edge bind at least as tightly as the expression, so whatever hands
the expression over assembles it first. -/
theorem reduce_right_edge {expr : Expr} (respects : expr.RespectsPrecedence) {level : Nat}
    (binds : level ≤ expr.level) (stack : List Frame) :
    reduce level (expr.rightEdge stack).1 (expr.rightEdge stack).2 =
      reduce level stack expr := by
  induction expr generalizing stack with
  | literal l => rfl
  | group inner ih => rfl
  | unary op position operand ih =>
      obtain ⟨operandTight, operandRespects⟩ := respects
      have operandBinds : level ≤ operand.level := Nat.le_trans binds operandTight
      have ownBinds : level ≤ OperatorClass.summary.level := binds
      rw [Expr.rightEdge, ih operandRespects operandBinds, reduce, if_pos ownBinds]
  | binary op position lhs rhs lhsIh rhsIh =>
      obtain ⟨lhsTight, rhsTight, lhsRespects, rhsRespects⟩ := respects
      have ownBinds : level ≤ op.level := binds
      have rhsBinds : level ≤ rhs.level := Nat.le_trans ownBinds (Nat.le_of_lt rhsTight)
      rw [Expr.rightEdge, rhsIh rhsRespects rhsBinds, reduce, if_pos ownBinds]

theorem reduce_of_operand_level_le {op : BinaryOperator} {stack : List Frame}
    (tight : operandLevel stack ≤ op.level) (expr : Expr) :
    reduce op.level stack expr = (stack, expr) := by
  match stack with
  | [] => rfl
  | group position :: rest => rfl
  | unary summary position :: rest =>
      have above : OperatorClass.summary.level ≤ op.level := tight
      have different := op.level_ne_summary
      rw [reduce, if_neg (by omega)]
  | binary other position lhs :: rest =>
      have above : other.level + 1 ≤ op.level := tight
      rw [reduce, if_neg (by omega)]

end Frame

namespace Reader

/-- The reader behind the last token of an expression that was read onto a stack. -/
def behind (stack : List Frame) (expr : Expr) : Reader :=
  holding (expr.rightEdge stack).1 (expr.rightEdge stack).2

theorem step_behind_operator {stack : List Frame} {expr : Expr} {op : BinaryOperator}
    (respects : expr.RespectsPrecedence) (binds : op.level ≤ expr.level)
    (tight : operandLevel stack ≤ op.level) (position : Nat) :
    (behind stack expr).step position op.token =
      .ok (wanting (.binary op position expr :: stack), none) := by
  refine step_holding_ok_iff.mpr (.inl ⟨op, rfl, ?_, rfl⟩)
  rw [Frame.reduce_right_edge respects binds, Frame.reduce_of_operand_level_le tight]

theorem step_behind_group_close {stack : List Frame} {opened : Nat} {inner : Expr}
    (respects : inner.RespectsPrecedence) (position : Nat) :
    (behind (.group opened :: stack) inner).step position .groupClose =
      .ok (holding stack (.group inner), none) := by
  refine step_holding_ok_iff.mpr (.inr (take_end_ok_iff.mpr (.inl ?_)))
  rw [Frame.reduce_right_edge respects (Nat.zero_le _)]
  exact ⟨opened, stack, rfl, rfl, rfl, rfl⟩

theorem step_behind_delimiter {expr : Expr} (respects : expr.RespectsPrecedence)
    (position : Nat) :
    (behind [] expr).step position .delimiter = .ok (between, some (.expression expr)) := by
  refine step_holding_ok_iff.mpr (.inr (take_end_ok_iff.mpr (.inr ?_)))
  rw [Frame.reduce_right_edge respects (Nat.zero_le _)]
  exact ⟨rfl, rfl, rfl, rfl⟩

theorem finish_behind {expr : Expr} (respects : expr.RespectsPrecedence) (length : Nat) :
    (behind [] expr).finish length = .ok (some (.expression expr)) := by
  simp only [behind, finish]
  rw [Frame.reduce_right_edge respects (Nat.zero_le _)]
  rfl

end Reader

namespace Reading

theorem go_on_of_take_operand {stack : List Frame} {next : Reader} {position : Nat}
    {token : Token} (taken : Reader.takeOperand stack position token = .ok next)
    (tokens : List Token) :
    goOn (.wanting stack) position (token :: tokens) = goOn next (position + 1) tokens :=
  go_on_of_silent_step (Reader.step_wanting_ok_iff.mpr ⟨taken, rfl⟩) tokens

/-- Reading the tokens of an expression where an operand is wanted. The induction follows the
expression; the stack and what comes later are arbitrary. -/
theorem go_on_expression (stack : List Frame) {expr : Expr} {start : Nat}
    (placed : expr.PlacedAt start) (respects : expr.RespectsPrecedence)
    (tight : operandLevel stack ≤ expr.level) (rest : List Token) :
    goOn (.wanting stack) start (expr.tokens ++ rest) =
      goOn (.behind stack expr) (start + expr.tokens.length) rest := by
  induction expr generalizing start stack rest with
  | literal l =>
      have taken : Reader.takeOperand stack start (.literal l) =
          .ok (.holding stack (.literal l)) := rfl
      exact go_on_of_take_operand taken rest
  | group inner ih =>
      have innerRespects : inner.RespectsPrecedence := respects
      have opening : Reader.takeOperand stack start .groupOpen =
          .ok (.wanting (.group start :: stack)) := rfl
      have inside := ih (.group start :: stack) placed innerRespects (Nat.zero_le _)
        (.groupClose :: rest)
      have closing (position : Nat) :
          (Reader.behind (.group start :: stack) inner).step position .groupClose =
            .ok (.holding stack (.group inner), none) :=
        Reader.step_behind_group_close innerRespects position
      simp only [Expr.tokens, List.cons_append, List.append_assoc, List.nil_append]
      rw [go_on_of_take_operand opening, inside, go_on_of_silent_step (closing _)]
      simp only [Reader.behind, Expr.rightEdge, List.length_cons, List.length_append,
        List.length_nil]
      congr 1
      omega
  | unary op position operand ih =>
      obtain ⟨rfl, operandPlaced⟩ := placed
      obtain ⟨operandTight, operandRespects⟩ := respects
      have taken : Reader.takeOperand stack position op.token =
          .ok (.wanting (.unary op position :: stack)) :=
        Reader.take_operand_ok_iff.mpr (.inr (.inr ⟨op, rfl, tight, rfl⟩))
      have inside := ih (.unary op position :: stack) operandPlaced operandRespects operandTight
        rest
      rw [Expr.tokens, List.cons_append, go_on_of_take_operand taken, inside, List.length_cons]
      simp only [Reader.behind, Expr.rightEdge]
      congr 1
      omega
  | binary op position lhs rhs lhsIh rhsIh =>
      obtain ⟨lhsPlaced, own, rhsPlaced⟩ := placed
      obtain ⟨lhsTight, rhsTight, lhsRespects, rhsRespects⟩ := respects
      have belowTight : operandLevel stack ≤ op.level := tight
      have left := lhsIh stack lhsPlaced lhsRespects (Nat.le_trans belowTight lhsTight)
        (op.token :: rhs.tokens ++ rest)
      have taken := Reader.step_behind_operator lhsRespects lhsTight belowTight position
      have right := rhsIh (.binary op position lhs :: stack) rhsPlaced rhsRespects rhsTight rest
      rw [Expr.tokens, List.append_assoc, left, ← own, List.cons_append,
        go_on_of_silent_step taken, right, own, List.length_append, List.length_cons]
      simp only [Reader.behind, Expr.rightEdge]
      congr 1
      omega

theorem expression_begins (expr : Expr) (position : Nat) :
    ∃ token tokens next, expr.tokens = token :: tokens ∧
      Reader.takeOperand [] position token = .ok next := by
  induction expr with
  | literal l => exact ⟨_, _, _, rfl, rfl⟩
  | group inner ih => exact ⟨_, _, _, rfl, rfl⟩
  | unary op own operand ih =>
      exact ⟨_, _, _, rfl,
        Reader.take_operand_ok_iff.mpr (.inr (.inr ⟨op, rfl, Nat.zero_le _, rfl⟩))⟩
  | binary op own lhs rhs lhsIh rhsIh =>
      obtain ⟨token, tokens, next, begins, taken⟩ := lhsIh
      exact ⟨token, tokens ++ op.token :: rhs.tokens, next, by simp [Expr.tokens, begins], taken⟩

theorem go_on_outside_expression {reader : Reader} (outside : reader.Outside) (expr : Expr)
    (start : Nat) (rest : List Token) :
    goOn reader start (expr.tokens ++ rest) = goOn (.wanting []) start (expr.tokens ++ rest) := by
  obtain ⟨token, tokens, next, begins, taken⟩ := expression_begins expr start
  have fromOutside : reader.step start token = .ok (next, none) :=
    (Reader.step_outside_ok_iff outside).mpr
      ⟨Reader.take_start_ok_iff.mpr (.inr (.inr taken)), rfl⟩
  rw [begins, List.cons_append, go_on_of_silent_step fromOutside, go_on_of_take_operand taken]

theorem go_on_outside_delimiter {reader : Reader} (outside : reader.Outside) (position : Nat)
    (tokens : List Token) :
    goOn reader position (.delimiter :: tokens) = goOn .between (position + 1) tokens :=
  go_on_of_silent_step ((Reader.step_outside_ok_iff outside).mpr ⟨rfl, rfl⟩) tokens

theorem go_on_roll {reader : Reader} (outside : reader.Outside) {roll : Roll} {start : Nat}
    (placed : roll.PlacedAt start) (respects : roll.RespectsPrecedence) :
    ∃ complete : Reader,
      (∀ rest, goOn reader start (roll.tokens ++ rest) =
        goOn complete (start + roll.tokens.length) rest) ∧
      (∀ position, complete.step position .delimiter = .ok (.between, some roll)) ∧
      ∀ length, complete.finish length = .ok (some roll) := by
  cases roll with
  | diceMap name map =>
      have taken : reader.step start (.diceMap name map) = .ok (.map name map, none) :=
        (Reader.step_outside_ok_iff outside).mpr ⟨rfl, rfl⟩
      exact ⟨.map name map, fun rest => go_on_of_silent_step taken rest, fun _ => rfl,
        fun _ => rfl⟩
  | expression expr =>
      refine ⟨.behind [] expr, fun rest => ?_, Reader.step_behind_delimiter respects,
        Reader.finish_behind respects⟩
      exact (go_on_outside_expression outside expr start rest).trans
        (go_on_expression [] placed respects (Nat.zero_le _) rest)

theorem go_on_writing {start : Nat} {tokens : List Token} {rolls : List Roll}
    (writing : Writing start tokens rolls)
    (respects : ∀ roll ∈ rolls, roll.RespectsPrecedence) {reader : Reader}
    (outside : reader.Outside) : goOn reader start tokens = ⟨rolls, none⟩ := by
  induction writing generalizing reader with
  | nothing start => rw [goOn, Reader.finish_outside outside]; rfl
  | delimiter writing ih =>
      rw [go_on_outside_delimiter outside]
      exact ih respects Reader.between_outside
  | @last start roll placed =>
      obtain ⟨complete, reads, _, finishes⟩ :=
        go_on_roll outside placed (respects roll List.mem_cons_self)
      have whole := reads []
      rw [List.append_nil] at whole
      rw [whole, goOn, finishes]
      rfl
  | @roll start roll tokens rolls placed writing ih =>
      obtain ⟨complete, reads, handsOut, _⟩ :=
        go_on_roll outside placed (respects roll List.mem_cons_self)
      have later := ih (fun other member => respects other (List.mem_cons_of_mem _ member))
        Reader.between_outside
      rw [reads, go_on_of_step (handsOut _), later]
      rfl

end Reading

theorem read_rolls_of_writing {tokens : List Token} {rolls : List Roll}
    (writing : Writing 0 tokens rolls) (respects : ∀ roll ∈ rolls, roll.RespectsPrecedence) :
    readRolls tokens = .ok rolls := by
  have reading : Reading.ofTokens tokens = ⟨rolls, none⟩ :=
    Reading.go_on_writing writing respects Reader.start_outside
  rw [readRolls, reading]

namespace Expr

/-- The same expression, with operators that remember where they stand when it is written from
`start` on. -/
def place (start : Nat) : Expr → Expr
  | literal l => literal l
  | group inner => group (inner.place (start + 1))
  | unary op _ operand => unary op start (operand.place (start + 1))
  | binary op _ lhs rhs =>
      binary op (start + lhs.tokens.length) (lhs.place start)
        (rhs.place (start + lhs.tokens.length + 1))

theorem place_tokens (expr : Expr) (start : Nat) : (expr.place start).tokens = expr.tokens := by
  induction expr generalizing start with
  | literal l => rfl
  | group inner ih => rw [place, tokens, ih, tokens]
  | unary op position operand ih => rw [place, tokens, ih, tokens]
  | binary op position lhs rhs lhsIh rhsIh => rw [place, tokens, lhsIh, rhsIh, tokens]

theorem place_placed (expr : Expr) (start : Nat) : (expr.place start).PlacedAt start := by
  induction expr generalizing start with
  | literal l => trivial
  | group inner ih => exact ih (start + 1)
  | unary op position operand ih => exact ⟨rfl, ih (start + 1)⟩
  | binary op position lhs rhs lhsIh rhsIh =>
      have between : start + lhs.tokens.length = start + (lhs.place start).tokens.length := by
        rw [place_tokens]
      exact ⟨lhsIh start, between, rhsIh _⟩

theorem place_level (expr : Expr) (start : Nat) : (expr.place start).level = expr.level := by
  cases expr <;> rfl

theorem place_respects {expr : Expr} (respects : expr.RespectsPrecedence) (start : Nat) :
    (expr.place start).RespectsPrecedence := by
  induction expr generalizing start with
  | literal l => trivial
  | group inner ih => exact ih respects (start + 1)
  | unary op position operand ih =>
      obtain ⟨tight, operandRespects⟩ := respects
      rw [← operand.place_level (start + 1)] at tight
      exact ⟨tight, ih operandRespects _⟩
  | binary op position lhs rhs lhsIh rhsIh =>
      obtain ⟨lhsTight, rhsTight, lhsRespects, rhsRespects⟩ := respects
      rw [← lhs.place_level start] at lhsTight
      rw [← rhs.place_level (start + lhs.tokens.length + 1)] at rhsTight
      exact ⟨lhsTight, rhsTight, lhsIh lhsRespects _, rhsIh rhsRespects _⟩

/-- Only positions differ: what is placed anew does not show where it was placed before. -/
theorem place_place (expr : Expr) (first second : Nat) :
    (expr.place first).place second = expr.place second := by
  induction expr generalizing first second with
  | literal l => rfl
  | group inner ih => rw [place, place, ih, place]
  | unary op position operand ih => rw [place, place, ih, place]
  | binary op position lhs rhs lhsIh rhsIh =>
      rw [place, place, place_tokens, lhsIh, rhsIh, place]

end Expr

namespace Roll

def place (start : Nat) : Roll → Roll
  | diceMap name map => diceMap name map
  | expression expr => expression (expr.place start)

theorem place_tokens (roll : Roll) (start : Nat) : (roll.place start).tokens = roll.tokens := by
  cases roll with
  | diceMap name map => rfl
  | expression expr => exact expr.place_tokens start

theorem place_placed (roll : Roll) (start : Nat) : (roll.place start).PlacedAt start := by
  cases roll with
  | diceMap name map => trivial
  | expression expr => exact expr.place_placed start

theorem place_respects {roll : Roll} (respects : roll.RespectsPrecedence) (start : Nat) :
    (roll.place start).RespectsPrecedence := by
  cases roll with
  | diceMap name map => trivial
  | expression expr => exact Expr.place_respects respects start

theorem place_place (roll : Roll) (first second : Nat) :
    (roll.place first).place second = roll.place second := by
  cases roll with
  | diceMap name map => rfl
  | expression expr => exact congrArg expression (expr.place_place first second)

end Roll

/-- Rolls written out with one delimiter between two of them. Each roll comes with the number of
further delimiters in front of it, and `after` delimiters stand at the end. -/
def writeRolls (after : Nat) : List (Nat × Roll) → List Token
  | [] => List.replicate after .delimiter
  | [(extra, roll)] =>
      List.replicate extra .delimiter ++ (roll.tokens ++ List.replicate after .delimiter)
  | (extra, roll) :: next :: rest =>
      List.replicate extra .delimiter ++
        (roll.tokens ++ .delimiter :: writeRolls after (next :: rest))

/-- The rolls as they stand in what `writeRolls` writes from `start` on. -/
def placeRolls (start : Nat) : List (Nat × Roll) → List Roll
  | [] => []
  | (extra, roll) :: rest =>
      roll.place (start + extra) :: placeRolls (start + extra + roll.tokens.length + 1) rest

theorem Writing.delimiters {start count : Nat} {tokens : List Token} {rolls : List Roll}
    (writing : Writing (start + count) tokens rolls) :
    Writing start (List.replicate count .delimiter ++ tokens) rolls := by
  induction count generalizing start with
  | zero => exact writing
  | succ count ih =>
      rw [List.replicate_succ, List.cons_append]
      apply Writing.delimiter
      apply ih
      rw [Nat.add_assoc, Nat.add_comm 1 count]
      exact writing

theorem Writing.only_delimiters (start count : Nat) :
    Writing start (List.replicate count .delimiter) [] := by
  have writing := Writing.delimiters (Writing.nothing (start + count))
  rwa [List.append_nil] at writing

theorem Writing.last_roll (roll : Roll) (start after : Nat) :
    Writing start (roll.tokens ++ List.replicate after .delimiter) [roll.place start] := by
  have placed := roll.place_placed start
  rw [← roll.place_tokens start]
  cases after with
  | zero =>
      rw [List.replicate_zero, List.append_nil]
      exact .last placed
  | succ after =>
      rw [List.replicate_succ]
      exact .roll placed (.only_delimiters _ after)

theorem write_rolls_writing (after start : Nat) (rolls : List (Nat × Roll)) :
    Writing start (writeRolls after rolls) (placeRolls start rolls) := by
  fun_induction writeRolls after rolls generalizing start with
  | case1 => exact .only_delimiters start after
  | case2 extra roll => exact .delimiters (.last_roll roll (start + extra) after)
  | case3 extra roll next rest ih =>
      apply Writing.delimiters
      rw [placeRolls, ← roll.place_tokens (start + extra)]
      exact .roll (roll.place_placed (start + extra)) (ih _)

theorem place_rolls_respect {rolls : List (Nat × Roll)}
    (respects : ∀ entry ∈ rolls, entry.2.RespectsPrecedence) (start : Nat) :
    ∀ roll ∈ placeRolls start rolls, roll.RespectsPrecedence := by
  induction rolls generalizing start with
  | nil => simp [placeRolls]
  | cons entry rest ih =>
      intro roll member
      rcases List.mem_cons.mp member with rfl | later
      · exact Roll.place_respects (respects entry List.mem_cons_self) _
      · exact ih (fun other otherMember => respects other (List.mem_cons_of_mem _ otherMember)) _
          roll later

theorem place_rolls_same (rolls : List (Nat × Roll)) (start : Nat) :
    (placeRolls start rolls).map (Roll.place 0) = rolls.map fun entry => entry.2.place 0 := by
  induction rolls generalizing start with
  | nil => rfl
  | cons entry rest ih => rw [placeRolls, List.map_cons, List.map_cons, ih, Roll.place_place]

/-- Rolls that respect precedence are read back from every way of writing them, the same but for
positions, which are the indices of the operators in the list; and no other rolls that respect
precedence are written that way. -/
theorem reading_undoes_writing (after : Nat) (rolls : List (Nat × Roll))
    (respects : ∀ entry ∈ rolls, entry.2.RespectsPrecedence) :
    readRolls (writeRolls after rolls) = .ok (placeRolls 0 rolls) ∧
      (placeRolls 0 rolls).map (Roll.place 0) = rolls.map (fun entry => entry.2.place 0) ∧
      Writing 0 (writeRolls after rolls) (placeRolls 0 rolls) ∧
      ∀ others, Writing 0 (writeRolls after rolls) others →
        (∀ roll ∈ others, roll.RespectsPrecedence) → others = placeRolls 0 rolls := by
  have writing := write_rolls_writing after 0 rolls
  have read := read_rolls_of_writing writing (place_rolls_respect respects 0)
  refine ⟨read, place_rolls_same rolls 0, writing, ?_⟩
  intro others otherWriting othersRespect
  have otherRead := read_rolls_of_writing otherWriting othersRespect
  exact Except.ok.inj (otherRead.symm.trans read)

/-- Operators of every kind of binding around a summary: tighter ones go into its operand, a tally
and an addition take the summary as theirs. -/
theorem reading_undoes_writing_summary :
    let five : Expr := .literal (.number 5)
    let rolls : List (Nat × Roll) :=
      [(2, .expression (.binary (.additive .add) 0
          (.binary (.tally .successes) 0
            (.unary .sum 0 (.binary (.pool .keepHigh) 0
              (.binary (.poolGeneration .plain) 0 five five) five))
            five)
          (.group (.binary .mapping 0 five (.literal (.qualifier "fate")))))),
        (1, .diceMap "fate" .empty)]
    (∀ entry ∈ rolls, entry.2.RespectsPrecedence) ∧
      readRolls (writeRolls 1 rolls) = .ok (placeRolls 0 rolls) ∧
      (placeRolls 0 rolls).map (Roll.place 0) = rolls.map (fun entry => entry.2.place 0) ∧
      Writing 0 (writeRolls 1 rolls) (placeRolls 0 rolls) ∧
      ∀ others, Writing 0 (writeRolls 1 rolls) others →
        (∀ roll ∈ others, roll.RespectsPrecedence) → others = placeRolls 0 rolls := by
  intro five rolls
  have respects : ∀ entry ∈ rolls, entry.2.RespectsPrecedence := by
    intro entry member
    simp only [rolls, List.mem_cons, List.not_mem_nil, or_false] at member
    rcases member with rfl | rfl
    · simp [five, Roll.RespectsPrecedence, Expr.RespectsPrecedence, Expr.level,
        Expr.primaryLevel, BinaryOperator.level, BinaryOperator.operatorClass,
        OperatorClass.level]
    · trivial
  exact ⟨respects, reading_undoes_writing 1 rolls respects⟩

end DiceLang
