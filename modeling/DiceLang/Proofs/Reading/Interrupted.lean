import DiceLang.Proofs.Errors
import DiceLang.Proofs.Reading.Prefixes
import DiceLang.Proofs.Reading.Soundness
import Mathlib.Data.List.DropRight

/-!
# Rolls in front of a fault

A fault lies in one roll, and the tokens in front of that roll are a writing of the rolls that are
handed out before the fault is found. So the operators of all rolls that are ever handed out stand
in the list, whether it has a fault or not, and a list can be cut in front of any of its rolls.
-/

namespace DiceLang

set_option autoImplicit false

open DiceLang.Frame (StackAt OperandAt stackTokens reduce)

/-- The tokens in front of the roll in which the token at `position` stands: those up to the last
delimiter before it. -/
def tokensBeforeRoll (position : Nat) (tokens : List Token) : List Token :=
  (tokens.take position).rdropWhile (· ≠ .delimiter)

theorem tokens_before_roll_prefix (position : Nat) (tokens : List Token) :
    tokensBeforeRoll position tokens <+: tokens :=
  (List.rdropWhile_prefix _ _).trans (List.take_prefix position tokens)

/-- A new roll may begin behind the tokens. -/
def AtRollStart (tokens : List Token) : Prop :=
  tokens = [] ∨ ∃ front, tokens = front ++ [.delimiter]

namespace AtRollStart

theorem nil : AtRollStart [] := .inl rfl

theorem behind_delimiter {tokens : List Token} (atStart : AtRollStart tokens)
    (earlier : List Token) : AtRollStart (earlier ++ .delimiter :: tokens) := by
  rcases atStart with rfl | ⟨front, rfl⟩
  · exact .inr ⟨earlier, rfl⟩
  · exact .inr ⟨earlier ++ .delimiter :: front, by simp⟩

/-- No roll begins between `front` and the position, so the position lies in the roll that begins
behind `front`. -/
theorem tokens_before_roll {front rest : List Token} {position : Nat}
    (atStart : AtRollStart front) (behind : front.length ≤ position)
    (sameRoll : Token.delimiter ∉ rest.take (position - front.length)) :
    tokensBeforeRoll position (front ++ rest) = front := by
  have skipped : ∀ token ∈ (rest.take (position - front.length)).reverse,
      decide (token ≠ .delimiter) = true := by
    intro token member
    refine decide_eq_true ?_
    rintro rfl
    exact sameRoll (List.mem_reverse.mp member)
  have whole : (front ++ rest).take position = front ++ rest.take (position - front.length) := by
    rw [List.take_append, List.take_of_length_le behind]
  rw [tokensBeforeRoll, whole, List.rdropWhile, List.reverse_append,
    List.dropWhile_append_of_pos skipped, ← List.rdropWhile]
  rcases atStart with rfl | ⟨earlier, rfl⟩
  · rfl
  · exact List.rdropWhile_concat_neg _ _ _ (by simp)

end AtRollStart

theorem Frame.delimiter_not_mem_stack_tokens (stack : List Frame) :
    Token.delimiter ∉ stackTokens stack := by
  induction stack with
  | nil => simp [stackTokens]
  | cons frame rest ih =>
      rw [stackTokens, List.mem_append, not_or]
      refine ⟨ih, ?_⟩
      cases frame with
      | group position => simp [Frame.tokens]
      | unary op position => simp [Frame.tokens, Summary.token]
      | binary op position lhs =>
          simp [Frame.tokens, BinaryOperator.token, lhs.delimiter_not_mem_tokens]

namespace Reader

theorem Reached.delimiter_not_mem {start : Nat} {consumed : List Token} {reader : Reader}
    (reached : Reached start consumed reader) : Token.delimiter ∉ consumed := by
  cases reached with
  | outside isOutside => simp
  | map name diceMap => simp
  | wanting stackAt => exact Frame.delimiter_not_mem_stack_tokens _
  | @holding stack expr operand primary =>
      rw [List.mem_append, not_or]
      exact ⟨Frame.delimiter_not_mem_stack_tokens stack, expr.delimiter_not_mem_tokens⟩

/-- The tokens that the reader has taken are a writing of the rolls that it has handed out, and
then the tokens of the roll that it is in. The induction is on the tokens still to be taken; those
of the current roll are in `consumed`. -/
theorem Takes.writes {start position : Nat} {consumed tokens : List Token} {rolls : List Roll}
    {reader last : Reader} (takes : reader.Takes position tokens rolls last)
    (reached : reader.Reached start consumed) (here : position = start + consumed.length) :
    ∃ written pending, consumed ++ tokens = written ++ pending ∧ AtRollStart written ∧
      Writing start written rolls ∧ (∀ roll ∈ rolls, roll.RespectsPrecedence) ∧
      last.Reached (start + written.length) pending := by
  induction takes generalizing start consumed with
  | nothing reader position =>
      exact ⟨[], consumed, by simp, .nil, .nothing start, by simp, reached⟩
  | @token reader next last position token tokens roll rolls taken takes ih =>
      subst here
      have fresh (start : Nat) : between.Reached start [] := .outside between_outside
      rcases step_from_reached reached taken with
        ⟨rfl, rfl, rfl, rfl⟩ | ⟨rfl, rfl, whole, rfl, rfl, placed, respects⟩ | ⟨onward, rfl⟩
      · obtain ⟨written, pending, split, atStart, writing, respect, left⟩ :=
          ih (fresh (start + 1)) rfl
        refine ⟨.delimiter :: written, pending, ?_, atStart.behind_delimiter [],
          .delimiter writing, respect, ?_⟩
        · simpa using split
        · rwa [List.length_cons, ← Nat.add_assoc, Nat.add_right_comm]
      · obtain ⟨written, pending, split, atStart, writing, respect, left⟩ :=
          ih (fresh (start + whole.tokens.length + 1)) rfl
        refine ⟨whole.tokens ++ .delimiter :: written, pending, ?_,
          atStart.behind_delimiter whole.tokens, .roll placed writing, ?_, ?_⟩
        · simpa using split
        · exact List.forall_mem_cons.mpr ⟨respects, respect⟩
        · have behind : start + (whole.tokens ++ .delimiter :: written).length =
              start + whole.tokens.length + 1 + written.length := by
            simp
            omega
          rwa [behind]
      · obtain ⟨written, pending, split, rest⟩ :=
          ih onward (by simp [Nat.add_assoc])
        exact ⟨written, pending, by simpa using split, rest⟩

theorem Reached.start_le_opened {start opened : Nat} {consumed : List Token}
    {stack rest : List Frame} {expr : Expr}
    (reached : Reached start consumed (Reader.holding stack expr))
    (grouped : (reduce 0 stack expr).1 = .group opened :: rest) : start ≤ opened := by
  cases reached with
  | outside isOutside => exact isOutside.elim
  | holding operand primary =>
      have reduced := Frame.reduce_keeps_operand 0 operand
      rw [grouped] at reduced
      cases reduced.stackAt with
      | group below => exact Nat.le_add_right _ _

end Reader

/-- The tokens in front of the roll in which a fault lies are a writing of the rolls that have been
handed out. -/
theorem Reading.of_tokens_interrupted {tokens : List Token} {fault : ReadError}
    (found : (ofTokens tokens).fault = some fault) :
    Writing 0 (tokensBeforeRoll fault.position tokens) (ofTokens tokens).rolls ∧
      ∀ roll ∈ (ofTokens tokens).rolls, roll.RespectsPrecedence := by
  rcases of_tokens_cases tokens with ⟨rolls, last, roll, _, _, whole⟩ |
    ⟨rolls, last, other, takes, finished, whole⟩ |
    ⟨before, token, after, rolls, other, rfl, ⟨last, takes, refused⟩, whole⟩
  · rw [whole] at found
    cases found
  · rw [whole] at found ⊢
    cases found
    obtain ⟨written, pending, split, atStart, writing, respect, left⟩ :=
      takes.writes (.outside Reader.start_outside) rfl
    rw [Nat.zero_add] at left
    have sameRoll : Token.delimiter ∉ pending.take (fault.position - written.length) :=
      fun member => left.delimiter_not_mem (List.mem_of_mem_take member)
    have behind : written.length ≤ fault.position := by
      rcases Reader.finish_error_cases finished with
        ⟨stack, rfl, rfl⟩ | ⟨stack, expr, opened, rest, rfl, grouped, rfl⟩
      · rw [List.nil_append] at split
        simp [split]
      · exact left.start_le_opened grouped
    rw [List.nil_append] at split
    rw [split, atStart.tokens_before_roll behind sameRoll]
    exact ⟨writing, respect⟩
  · rw [whole] at found ⊢
    cases found
    obtain ⟨written, pending, split, atStart, writing, respect, left⟩ :=
      takes.writes (.outside Reader.start_outside) rfl
    rw [Nat.zero_add] at left
    rw [List.nil_append] at split
    have own : fault.position = written.length + pending.length := by
      have fails := last.step_fails (0 + before.length) token
      rw [refused] at fails
      simpa [split] using fails.1
    have sameRoll : Token.delimiter ∉
        (pending ++ token :: after).take (fault.position - written.length) := by
      rw [own, Nat.add_sub_cancel_left, List.take_left]
      exact left.delimiter_not_mem
    rw [split, List.append_assoc, atStart.tokens_before_roll (by omega) sameRoll]
    exact ⟨writing, respect⟩

theorem Expr.OperatorsIn.append {expr : Expr} {tokens : List Token}
    (operators : expr.OperatorsIn tokens) (rest : List Token) :
    expr.OperatorsIn (tokens ++ rest) := by
  have stays {position : Nat} {token : Token} (found : tokens[position]? = some token) :
      (tokens ++ rest)[position]? = some token := by
    obtain ⟨inside, _⟩ := List.getElem?_eq_some_iff.mp found
    rw [List.getElem?_append_left inside, found]
  induction expr with
  | literal l => trivial
  | group inner ih => exact ih operators
  | unary op position operand ih =>
      obtain ⟨⟨symbol, found, known⟩, inOperand⟩ := operators
      exact ⟨⟨symbol, stays found, known⟩, ih inOperand⟩
  | binary op position lhs rhs lhsIh rhsIh =>
      obtain ⟨⟨operatorClass, symbol, found, known⟩, inLhs, inRhs⟩ := operators
      exact ⟨⟨operatorClass, symbol, stays found, known⟩, lhsIh inLhs, rhsIh inRhs⟩

theorem Reading.operators_in_of_tokens (tokens : List Token) :
    ∀ roll ∈ (ofTokens tokens).rolls, roll.OperatorsIn tokens := by
  cases found : (ofTokens tokens).fault with
  | none =>
      have read : readRolls tokens = .ok (ofTokens tokens).rolls := by
        rw [readRolls, found]
      exact (writing_of_read_rolls read).1.operators_in [] rfl
  | some fault =>
      obtain ⟨writing, _⟩ := of_tokens_interrupted found
      obtain ⟨rest, split⟩ := tokens_before_roll_prefix fault.position tokens
      intro roll member
      have inFront := writing.operators_in [] rfl roll member
      rw [← split]
      cases roll with
      | diceMap name map => trivial
      | expression expr => exact Expr.OperatorsIn.append inFront rest

theorem Writing.cut {start : Nat} {tokens : List Token} {before after : List Roll} {roll : Roll}
    (writing : Writing start tokens (before ++ roll :: after)) :
    ∃ front rest, tokens = front ++ (roll.tokens ++ rest) ∧ AtRollStart front ∧
      Writing start front before ∧ roll.PlacedAt (start + front.length) := by
  generalize whole : before ++ roll :: after = rolls at writing
  induction writing generalizing before with
  | nothing start => simp at whole
  | delimiter writing ih =>
      obtain ⟨front, rest, rfl, atStart, earlier, placed⟩ := ih whole
      refine ⟨.delimiter :: front, rest, rfl, atStart.behind_delimiter [], .delimiter earlier, ?_⟩
      rwa [List.length_cons, ← Nat.add_assoc, Nat.add_right_comm]
  | @last start only placed =>
      obtain ⟨rfl, rfl, rfl⟩ : before = [] ∧ roll = only ∧ after = [] := by
        cases before <;> simp_all
      exact ⟨[], [], by simp, .nil, .nothing start, placed⟩
  | @roll start first tokens rolls placed writing ih =>
      cases before with
      | nil =>
          obtain ⟨rfl, rfl⟩ := List.cons.inj whole
          exact ⟨[], .delimiter :: tokens, rfl, .nil, .nothing start, placed⟩
      | cons other before =>
          obtain ⟨rfl, sameRest⟩ := List.cons.inj whole
          obtain ⟨front, rest, rfl, atStart, earlier, later⟩ := ih sameRest
          refine ⟨other.tokens ++ .delimiter :: front, rest, by simp,
            atStart.behind_delimiter other.tokens, .roll placed earlier, ?_⟩
          have behind : start + (other.tokens ++ .delimiter :: front).length =
              start + other.tokens.length + 1 + front.length := by
            simp
            omega
          rwa [behind]

end DiceLang
