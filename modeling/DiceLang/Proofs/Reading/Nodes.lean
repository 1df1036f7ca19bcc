import DiceLang.Proofs.Reading.Completeness
import DiceLang.Proofs.Reading.Soundness
import Mathlib.Data.List.Nodup

/-!
# The sub-expressions of what was read

Every sub-expression is a node: it takes up a stretch of the list of tokens, which begins at some
index. The nodes of a roll stand within the tokens of the roll, and none of them is listed twice,
so every set of sub-expressions can be picked out of the list of nodes.
-/

namespace DiceLang

set_option autoImplicit false

/-- A sub-expression and the index of its first token. -/
structure Node where
  first : Nat
  expr : Expr
  deriving DecidableEq

/-- The index of its last token. -/
def Node.last (node : Node) : Nat :=
  node.first + node.expr.tokens.length - 1

/-- An expression that is written from `start` on, and all of its sub-expressions. -/
def Expr.nodes (start : Nat) : Expr → List Node
  | literal l => [⟨start, .literal l⟩]
  | group inner => ⟨start, .group inner⟩ :: inner.nodes (start + 1)
  | unary op position operand =>
      ⟨start, .unary op position operand⟩ :: operand.nodes (start + 1)
  | binary op position lhs rhs =>
      ⟨start, .binary op position lhs rhs⟩ ::
        (lhs.nodes start ++ rhs.nodes (start + lhs.tokens.length + 1))

def Roll.nodes (start : Nat) : Roll → List Node
  | diceMap _ _ => []
  | expression expr => expr.nodes start

/-- The nodes of rolls that are written in the tokens, of which the first one has the index
`start`. Delimiters stand in front of rolls and nowhere else. -/
def rollNodes (start : Nat) (tokens : List Token) : List Roll → List Node
  | [] => []
  | roll :: rest =>
      let skipped := (tokens.takeWhile (· = .delimiter)).length
      let length := skipped + roll.tokens.length
      roll.nodes (start + skipped) ++ rollNodes (start + length) (tokens.drop length) rest

namespace Expr

theorem tokens_length_pos (expr : Expr) : 0 < expr.tokens.length := by
  obtain ⟨token, tokens, _, begins, _⟩ := Reading.expression_begins expr 0
  rw [begins]
  exact Nat.succ_pos _

theorem length_group (inner : Expr) :
    (group inner).tokens.length = inner.tokens.length + 2 := by
  simp [tokens]

theorem length_unary (op : Summary) (position : Nat) (operand : Expr) :
    (unary op position operand).tokens.length = operand.tokens.length + 1 := by
  simp [tokens]

theorem length_binary (op : BinaryOperator) (position : Nat) (lhs rhs : Expr) :
    (binary op position lhs rhs).tokens.length = lhs.tokens.length + 1 + rhs.tokens.length := by
  simp only [tokens, List.length_append, List.length_cons]
  omega

end Expr

theorem Node.last_succ (node : Node) : node.last + 1 = node.first + node.expr.tokens.length := by
  have positive := node.expr.tokens_length_pos
  unfold last
  omega

/-- The nodes stand between two indices, the first of which is included. -/
def Within (low high : Nat) (nodes : List Node) : Prop :=
  ∀ node ∈ nodes, low ≤ node.first ∧ node.first ≤ node.last ∧ node.last < high

namespace Within

variable {low high : Nat} {nodes others : List Node}

theorem mono {low' high' : Nat} (within : Within low high nodes) (lower : low' ≤ low)
    (upper : high ≤ high') : Within low' high' nodes := by
  intro node member
  have bounds := within node member
  omega

theorem cons {node : Node} (lower : low ≤ node.first)
    (upper : node.first + node.expr.tokens.length ≤ high) (rest : Within low high nodes) :
    Within low high (node :: nodes) := by
  have positive := node.expr.tokens_length_pos
  have last := node.last_succ
  exact List.forall_mem_cons.mpr ⟨⟨lower, by omega, by omega⟩, rest⟩

theorem append (here : Within low high nodes) (there : Within low high others) :
    Within low high (nodes ++ others) :=
  List.forall_mem_append.mpr ⟨here, there⟩

theorem filter (within : Within low high nodes) (chosen : Node → Bool) :
    Within low high (nodes.filter chosen) :=
  fun node member => within node (List.mem_filter.mp member).1

end Within

theorem Expr.nodes_within (expr : Expr) (start : Nat) :
    Within start (start + expr.tokens.length) (expr.nodes start) := by
  induction expr generalizing start with
  | literal l => exact .cons (Nat.le_refl _) (Nat.le_refl _) nofun
  | group inner ih =>
      refine .cons (Nat.le_refl _) (Nat.le_refl _) ((ih (start + 1)).mono (by omega) ?_)
      rw [length_group]
      omega
  | unary op position operand ih =>
      refine .cons (Nat.le_refl _) (Nat.le_refl _) ((ih (start + 1)).mono (by omega) ?_)
      rw [length_unary]
      omega
  | binary op position lhs rhs lhsIh rhsIh =>
      refine .cons (Nat.le_refl _) (Nat.le_refl _) (.append ((lhsIh start).mono (by omega) ?_)
        ((rhsIh (start + lhs.tokens.length + 1)).mono (by omega) ?_))
      · rw [length_binary]
        omega
      · rw [length_binary]
        omega

namespace Roll

theorem nodes_within (roll : Roll) (start : Nat) :
    Within start (start + roll.tokens.length) (roll.nodes start) := by
  cases roll with
  | diceMap name map => exact nofun
  | expression expr => exact expr.nodes_within start

theorem tokens_length_pos (roll : Roll) : 0 < roll.tokens.length := by
  cases roll with
  | diceMap name map => exact Nat.succ_pos 0
  | expression expr => exact expr.tokens_length_pos

end Roll

theorem roll_nodes_delimiter (start : Nat) (tokens : List Token) (rolls : List Roll) :
    rollNodes start (.delimiter :: tokens) rolls = rollNodes (start + 1) tokens rolls := by
  cases rolls with
  | nil => rfl
  | cons roll rest =>
      simp only [rollNodes, List.takeWhile_cons, decide_true, if_true, List.length_cons]
      rw [Nat.add_right_comm _ 1, List.drop_succ_cons]
      congr 2 <;> omega

theorem roll_nodes_roll (start : Nat) (roll : Roll) (tokens : List Token) (rolls : List Roll) :
    rollNodes start (roll.tokens ++ tokens) (roll :: rolls) =
      roll.nodes start ++ rollNodes (start + roll.tokens.length) tokens rolls := by
  have noDelimiter : (roll.tokens ++ tokens).takeWhile (· = .delimiter) = [] := by
    obtain ⟨token, rest, begins⟩ := List.exists_cons_of_length_pos roll.tokens_length_pos
    have kept := List.filter_eq_self.mp roll.tokens_without_delimiters token (by simp [begins])
    have notDelimiter : token ≠ .delimiter := of_decide_eq_true kept
    rw [begins]
    simp [notDelimiter]
  rw [rollNodes, noDelimiter]
  simp

theorem roll_nodes_last (start : Nat) (roll : Roll) :
    rollNodes start roll.tokens [roll] = roll.nodes start := by
  have nodes := roll_nodes_roll start roll [] []
  rwa [List.append_nil, rollNodes, List.append_nil] at nodes

theorem Writing.nodes_within {start : Nat} {tokens : List Token} {rolls : List Roll}
    (writing : Writing start tokens rolls) :
    Within start (start + tokens.length) (rollNodes start tokens rolls) := by
  induction writing with
  | nothing start => exact nofun
  | @delimiter start tokens rolls rest ih =>
      rw [roll_nodes_delimiter, List.length_cons]
      exact ih.mono (by omega) (by omega)
  | @last start roll placed =>
      rw [roll_nodes_last]
      exact roll.nodes_within start
  | @roll start roll tokens rolls placed rest ih =>
      rw [roll_nodes_roll, roll_nodes_delimiter, List.length_append, List.length_cons]
      exact ((roll.nodes_within start).mono (by omega) (by omega)).append
        (ih.mono (by omega) (by omega))

/-- The tokens of every node stand in the list from its first index on. -/
def Written (tokens : List Token) (nodes : List Node) : Prop :=
  ∀ node ∈ nodes, node.expr.tokens <+: tokens.drop node.first

namespace Written

variable {nodes others : List Node} {tokens : List Token}

theorem cons {expr : Expr} {before after : List Token}
    (rest : Written (before ++ (expr.tokens ++ after)) nodes) :
    Written (before ++ (expr.tokens ++ after)) (⟨before.length, expr⟩ :: nodes) := by
  refine List.forall_mem_cons.mpr ⟨?_, rest⟩
  rw [List.drop_left]
  exact List.prefix_append _ _

theorem append (here : Written tokens nodes) (there : Written tokens others) :
    Written tokens (nodes ++ others) :=
  List.forall_mem_append.mpr ⟨here, there⟩

end Written

namespace Expr

theorem nodes_written (expr : Expr) (before after : List Token) :
    Written (before ++ (expr.tokens ++ after)) (expr.nodes before.length) := by
  induction expr generalizing before after with
  | literal l => exact .cons nofun
  | group inner ih =>
      have inside := ih (before ++ [.groupOpen]) (.groupClose :: after)
      refine .cons ?_
      simpa [tokens] using inside
  | unary op position operand ih =>
      have inside := ih (before ++ [op.token]) after
      refine .cons ?_
      simpa [tokens] using inside
  | binary op position lhs rhs lhsIh rhsIh =>
      have left := lhsIh before (op.token :: rhs.tokens ++ after)
      have right := rhsIh (before ++ lhs.tokens ++ [op.token]) after
      refine .cons (.append ?_ ?_)
      · simpa [tokens] using left
      · simpa [tokens, Nat.add_assoc] using right

/-- An operand begins later than the whole, or it ends earlier. -/
theorem nodes_nodup (expr : Expr) (start : Nat) : (expr.nodes start).Nodup := by
  induction expr generalizing start with
  | literal l => exact List.nodup_cons.mpr ⟨nofun, .nil⟩
  | group inner ih =>
      refine List.nodup_cons.mpr ⟨fun member => ?_, ih (start + 1)⟩
      have within := inner.nodes_within (start + 1) _ member
      simp only at within
      omega
  | unary op position operand ih =>
      refine List.nodup_cons.mpr ⟨fun member => ?_, ih (start + 1)⟩
      have within := operand.nodes_within (start + 1) _ member
      simp only at within
      omega
  | binary op position lhs rhs lhsIh rhsIh =>
      have inLeft := lhs.nodes_within start
      have inRight := rhs.nodes_within (start + lhs.tokens.length + 1)
      refine List.nodup_cons.mpr ⟨fun member => ?_, (lhsIh start).append (rhsIh _) ?_⟩
      · have last := Node.last_succ ⟨start, binary op position lhs rhs⟩
        rw [length_binary] at last
        rcases List.mem_append.mp member with left | right
        · have within := inLeft _ left
          simp only at within last
          omega
        · have within := inRight _ right
          simp only at within
          omega
      · intro node left right
        have below := inLeft node left
        have above := inRight node right
        omega

end Expr

theorem Roll.nodes_written (roll : Roll) (before after : List Token) :
    Written (before ++ (roll.tokens ++ after)) (roll.nodes before.length) := by
  cases roll with
  | diceMap name map => exact nofun
  | expression expr => exact expr.nodes_written before after

theorem Roll.nodes_nodup (roll : Roll) (start : Nat) : (roll.nodes start).Nodup := by
  cases roll with
  | diceMap name map => exact .nil
  | expression expr => exact expr.nodes_nodup start

theorem Writing.nodes_written {start : Nat} {tokens : List Token} {rolls : List Roll}
    (writing : Writing start tokens rolls) (before : List Token) (length : before.length = start) :
    Written (before ++ tokens) (rollNodes start tokens rolls) := by
  induction writing generalizing before with
  | nothing start => exact nofun
  | @delimiter start tokens rolls rest ih =>
      have later := ih (before ++ [.delimiter]) (by simp [length])
      rw [roll_nodes_delimiter]
      simpa using later
  | @last start roll placed =>
      have here := roll.nodes_written before []
      rw [roll_nodes_last, ← length]
      simpa using here
  | @roll start roll tokens rolls placed rest ih =>
      have here := roll.nodes_written before (.delimiter :: tokens)
      have later := ih (before ++ roll.tokens ++ [.delimiter]) (by simp [length, Nat.add_assoc])
      rw [length] at here
      rw [roll_nodes_roll, roll_nodes_delimiter]
      refine here.append ?_
      simpa using later

theorem Writing.nodes_nodup {start : Nat} {tokens : List Token} {rolls : List Roll}
    (writing : Writing start tokens rolls) : (rollNodes start tokens rolls).Nodup := by
  induction writing with
  | nothing start => exact .nil
  | @delimiter start tokens rolls rest ih =>
      rw [roll_nodes_delimiter]
      exact ih
  | @last start roll placed =>
      rw [roll_nodes_last]
      exact roll.nodes_nodup start
  | @roll start roll tokens rolls placed rest ih =>
      rw [roll_nodes_roll, roll_nodes_delimiter]
      refine (roll.nodes_nodup start).append ih ?_
      intro node here later
      have below := roll.nodes_within start node here
      have above := rest.nodes_within node later
      omega

end DiceLang
