import DiceLang.Proofs.Reading.Nodes
import DiceLang.Proofs.Relocation

/-!
# Parentheses around sub-expressions

Opening a group in front of the first token of every chosen node, and closing one behind its last
token, gives a list from which the same rolls are read, with groups around the chosen nodes.
Several groups may open or close at one token. Which of them belongs to which node need not be
said, since of two nodes that share a token one lies within the other.
-/

namespace DiceLang

set_option autoImplicit false

/-- How many of the nodes begin with the token at `index`. -/
def groupsOpened (nodes : List Node) (index : Nat) : Nat :=
  nodes.countP (·.first = index)

/-- How many of the nodes end with the token at `index`. -/
def groupsClosed (nodes : List Node) (index : Nat) : Nat :=
  nodes.countP (·.last = index)

/-- Puts every one of the nodes in parentheses. The first token has the index `index`. -/
def parenthesize (nodes : List Node) (index : Nat) : List Token → List Token
  | [] => []
  | token :: rest =>
      List.replicate (groupsOpened nodes index) .groupOpen ++
        token :: (List.replicate (groupsClosed nodes index) .groupClose ++
          parenthesize nodes (index + 1) rest)

/-- The number of tokens, parentheses included, in front of those that belong to the token at an
index. -/
def front (nodes : List Node) : Nat → Nat
  | 0 => 0
  | index + 1 =>
      front nodes index + groupsOpened nodes index + 1 + groupsClosed nodes index

/-- Where a token stands once the nodes are in parentheses. -/
def image (nodes : List Node) (index : Nat) : Nat :=
  front nodes index + groupsOpened nodes index

section Insertion

variable (nodes : List Node)

theorem parenthesize_append (index : Nat) (first second : List Token) :
    parenthesize nodes index (first ++ second) =
      parenthesize nodes index first ++ parenthesize nodes (index + first.length) second := by
  induction first generalizing index with
  | nil => rfl
  | cons token rest ih =>
      simp only [List.cons_append, parenthesize, ih, List.append_assoc, List.length_cons]
      rw [Nat.add_assoc, Nat.add_comm 1]

theorem parenthesize_ne_nil (index : Nat) {tokens : List Token} (nonempty : tokens ≠ []) :
    parenthesize nodes index tokens ≠ [] := by
  cases tokens with
  | nil => exact absurd rfl nonempty
  | cons token rest => simp [parenthesize]

theorem front_add (index : Nat) (tokens : List Token) :
    front nodes (index + tokens.length) =
      front nodes index + (parenthesize nodes index tokens).length := by
  induction tokens generalizing index with
  | nil => rfl
  | cons token rest ih =>
      have later := ih (index + 1)
      rw [front] at later
      rw [List.length_cons, Nat.add_comm rest.length, ← Nat.add_assoc, later]
      simp only [parenthesize, List.length_append, List.length_replicate, List.length_cons]
      omega

theorem parenthesize_at_image {tokens : List Token} {index : Nat} (inside : index < tokens.length) :
    (parenthesize nodes 0 tokens)[image nodes index]? = tokens[index]? := by
  obtain ⟨before, token, after, rfl, rfl⟩ : ∃ before token after,
      tokens = before ++ token :: after ∧ index = before.length := by
    refine ⟨tokens.take index, tokens[index], tokens.drop (index + 1), ?_, ?_⟩
    · rw [← List.drop_eq_getElem_cons inside, List.take_append_drop]
    · rw [List.length_take]
      omega
  have length := front_add nodes 0 before
  rw [Nat.zero_add] at length
  rw [parenthesize_append, parenthesize, image, length, Nat.zero_add, front, Nat.zero_add,
    List.getElem?_append_right (by omega), Nat.add_sub_cancel_left,
    List.getElem?_append_right (by simp)]
  simp

end Insertion

namespace Within

variable {low high : Nat} {nodes : List Node}

theorem none_opened (within : Within low high nodes) {index : Nat}
    (outside : index < low ∨ high ≤ index) : groupsOpened nodes index = 0 := by
  apply List.countP_eq_zero.mpr
  intro node member here
  have bounds := within node member
  have same : node.first = index := of_decide_eq_true here
  omega

theorem none_closed (within : Within low high nodes) {index : Nat}
    (outside : index < low ∨ high ≤ index) : groupsClosed nodes index = 0 := by
  apply List.countP_eq_zero.mpr
  intro node member here
  have bounds := within node member
  have same : node.last = index := of_decide_eq_true here
  omega

end Within

theorem groups_opened_append (nodes others : List Node) (index : Nat) :
    groupsOpened (nodes ++ others) index = groupsOpened nodes index + groupsOpened others index :=
  List.countP_append

theorem groups_closed_append (nodes others : List Node) (index : Nat) :
    groupsClosed (nodes ++ others) index = groupsClosed nodes index + groupsClosed others index :=
  List.countP_append

/-- Between `first` and `last`, the nodes are the own ones, but for `before` that begin at `first`
and `after` that end at `last`. -/
structure Surrounded (nodes own : List Node) (first last before after : Nat) : Prop where
  opened : ∀ index, first ≤ index → index ≤ last →
    groupsOpened nodes index = groupsOpened own index + if index = first then before else 0
  closed : ∀ index, first ≤ index → index ≤ last →
    groupsClosed nodes index = groupsClosed own index + if index = last then after else 0

namespace Surrounded

variable {chosen : Node → Bool} {nodes own others : List Node} {first last before after : Nat}

theorem refl (nodes : List Node) (first last : Nat) : Surrounded nodes nodes first last 0 0 := by
  constructor
  · intro index _ _
    rw [ite_self, Nat.add_zero]
  · intro index _ _
    rw [ite_self, Nat.add_zero]

theorem of_cons {node : Node}
    (surrounded : Surrounded nodes ((node :: own).filter chosen) node.first node.last before
      after) :
    Surrounded nodes (own.filter chosen) node.first node.last (before + (chosen node).toNat)
      (after + (chosen node).toNat) := by
  have counted (p : Node → Bool) : ((node :: own).filter chosen).countP p =
      (own.filter chosen).countP p + if p node then (chosen node).toNat else 0 := by
    cases picked : chosen node with
    | true => simp [picked, List.countP_cons]
    | false => simp [picked]
  constructor
  · intro index lower upper
    rw [surrounded.opened index lower upper, groupsOpened, counted, groupsOpened]
    by_cases here : index = node.first
    · simp [here]
      omega
    · simp [here, Ne.symm here]
  · intro index lower upper
    rw [surrounded.closed index lower upper, groupsClosed, counted, groupsClosed]
    by_cases here : index = node.last
    · simp [here]
      omega
    · simp [here, Ne.symm here]

theorem shrink (surrounded : Surrounded nodes own first last before after)
    {low high before' after' : Nat} (lower : first ≤ low) (upper : high ≤ last)
    (atFirst : before' = if low = first then before else 0)
    (atLast : after' = if high = last then after else 0) :
    Surrounded nodes own low high before' after' := by
  constructor
  · intro index above below
    rw [surrounded.opened index (by omega) (by omega)]
    grind
  · intro index above below
    rw [surrounded.closed index (by omega) (by omega)]
    grind

theorem shrink_bare (surrounded : Surrounded nodes own first last 0 0) {low high : Nat}
    (lower : first ≤ low) (upper : high ≤ last) : Surrounded nodes own low high 0 0 :=
  surrounded.shrink lower upper (ite_self 0).symm (ite_self 0).symm

theorem left (surrounded : Surrounded nodes (own ++ others) first last before after)
    {low high : Nat} (within : Within low high others) (elsewhere : last < low) :
    Surrounded nodes own first last before after := by
  constructor
  · intro index above below
    rw [surrounded.opened index above below, groups_opened_append,
      within.none_opened (.inl (by omega)), Nat.add_zero]
  · intro index above below
    rw [surrounded.closed index above below, groups_closed_append,
      within.none_closed (.inl (by omega)), Nat.add_zero]

theorem right (surrounded : Surrounded nodes (others ++ own) first last before after)
    {low high : Nat} (within : Within low high others) (elsewhere : high ≤ first) :
    Surrounded nodes own first last before after := by
  constructor
  · intro index above below
    rw [surrounded.opened index above below, groups_opened_append,
      within.none_opened (.inr (by omega)), Nat.zero_add]
  · intro index above below
    rw [surrounded.closed index above below, groups_closed_append,
      within.none_closed (.inr (by omega)), Nat.zero_add]

theorem at_edge (surrounded : Surrounded nodes own first last before after)
    {low high index : Nat} (within : Within low high own) (outside : index < low ∨ high ≤ index)
    (lower : first ≤ index) (upper : index ≤ last) :
    groupsOpened nodes index = (if index = first then before else 0) ∧
      groupsClosed nodes index = if index = last then after else 0 := by
  rw [surrounded.opened index lower upper, within.none_opened outside,
    surrounded.closed index lower upper, within.none_closed outside, Nat.zero_add, Nat.zero_add]
  exact ⟨rfl, rfl⟩

theorem at_delimiter (surrounded : Surrounded nodes own first last 0 0) {high : Nat}
    (within : Within (first + 1) high own) (nonempty : first ≤ last) :
    groupsOpened nodes first = 0 ∧ groupsClosed nodes first = 0 := by
  have edge := surrounded.at_edge within (.inl (Nat.lt_succ_self _)) (Nat.le_refl _) nonempty
  rwa [ite_self, ite_self] at edge

end Surrounded

namespace Expr

def groupIf (enclosed : Bool) (expr : Expr) : Expr :=
  if enclosed then group expr else expr

section GroupIf

variable (enclosed : Bool) (expr : Expr)

theorem group_if_placed_iff (start : Nat) :
    (expr.groupIf enclosed).PlacedAt start ↔ expr.PlacedAt (start + enclosed.toNat) := by
  cases enclosed <;> rfl

theorem group_if_respects_iff :
    (expr.groupIf enclosed).RespectsPrecedence ↔ expr.RespectsPrecedence := by
  cases enclosed <;> rfl

theorem level_le_group_if {level : Nat} (loose : level ≤ expr.level) :
    level ≤ (expr.groupIf enclosed).level := by
  have primary : expr.level ≤ primaryLevel := by
    cases expr with
    | literal l => exact Nat.le_refl _
    | group inner => exact Nat.le_refl _
    | unary op position operand => exact Nat.le_of_lt (OperatorClass.level_lt_primaryLevel .summary)
    | binary op position lhs rhs => exact Nat.le_of_lt op.level_lt_primary
  cases enclosed with
  | false => exact loose
  | true => exact Nat.le_trans loose primary

theorem surround_group_if (before after : Nat) :
    List.replicate before Token.groupOpen ++
        ((expr.groupIf enclosed).tokens ++ List.replicate after Token.groupClose) =
      List.replicate (before + enclosed.toNat) Token.groupOpen ++
        (expr.tokens ++ List.replicate (after + enclosed.toNat) Token.groupClose) := by
  cases enclosed with
  | false => rfl
  | true =>
      rw [Bool.toNat_true, List.replicate_succ', List.replicate_succ]
      simp [groupIf, tokens]

end GroupIf

/-- Groups around the chosen nodes of an expression that is written from `start` on. Operators are
moved to where they stand then. -/
def enclose (chosen : Node → Bool) (move : Nat → Nat) (start : Nat) : Expr → Expr
  | literal l => groupIf (chosen ⟨start, .literal l⟩) (.literal l)
  | group inner =>
      groupIf (chosen ⟨start, .group inner⟩) (.group (inner.enclose chosen move (start + 1)))
  | unary op position operand =>
      groupIf (chosen ⟨start, .unary op position operand⟩)
        (.unary op (move position) (operand.enclose chosen move (start + 1)))
  | binary op position lhs rhs =>
      groupIf (chosen ⟨start, .binary op position lhs rhs⟩)
        (.binary op (move position) (lhs.enclose chosen move start)
          (rhs.enclose chosen move (start + lhs.tokens.length + 1)))

/-- Where the expression is written from `start` on, the nodes are the chosen ones among its own,
but for `before` that begin and `after` that end with it. -/
def SurroundedAt (expr : Expr) (chosen : Node → Bool) (nodes : List Node)
    (start before after : Nat) : Prop :=
  Surrounded nodes ((expr.nodes start).filter chosen) start (start + expr.tokens.length - 1)
    before after

variable {chosen : Node → Bool} {nodes : List Node} {start before after : Nat}

namespace SurroundedAt

theorem parts {expr : Expr} (surrounded : expr.SurroundedAt chosen nodes start before after)
    {parts : List Node} (split : expr.nodes start = ⟨start, expr⟩ :: parts) :
    Surrounded nodes (parts.filter chosen) start (start + expr.tokens.length - 1)
      (before + (chosen ⟨start, expr⟩).toNat) (after + (chosen ⟨start, expr⟩).toNat) := by
  unfold SurroundedAt at surrounded
  rw [split] at surrounded
  exact Surrounded.of_cons surrounded

/-- All groups around an expression open at its first token, and none closes there, if its parts
come later. -/
theorem at_first {expr : Expr} (surrounded : expr.SurroundedAt chosen nodes start before after)
    {parts : List Node} {high : Nat} (split : expr.nodes start = ⟨start, expr⟩ :: parts)
    (within : Within (start + 1) high parts) (longer : 1 < expr.tokens.length) :
    groupsOpened nodes start = before + (chosen ⟨start, expr⟩).toNat ∧
      groupsClosed nodes start = 0 := by
  have edge := (surrounded.parts split).at_edge (within.filter chosen)
    (.inl (Nat.lt_succ_self _)) (Nat.le_refl _) (by omega)
  rwa [if_pos rfl, if_neg (by omega)] at edge

section Group

variable {inner : Expr}

theorem at_group_open
    (surrounded : (group inner).SurroundedAt chosen nodes start before after) :
    groupsOpened nodes start = before + (chosen ⟨start, group inner⟩).toNat ∧
      groupsClosed nodes start = 0 := by
  have length := length_group inner
  exact surrounded.at_first rfl (inner.nodes_within (start + 1)) (by omega)

theorem at_group_close
    (surrounded : (group inner).SurroundedAt chosen nodes start before after) :
    groupsOpened nodes (start + 1 + inner.tokens.length) = 0 ∧
      groupsClosed nodes (start + 1 + inner.tokens.length) =
        after + (chosen ⟨start, group inner⟩).toNat := by
  have length := length_group inner
  have edge := (surrounded.parts rfl).at_edge ((inner.nodes_within (start + 1)).filter chosen)
    (.inr (Nat.le_refl _)) (by omega) (by omega)
  rwa [if_neg (by omega), if_pos (by omega)] at edge

theorem of_group
    (surrounded : (group inner).SurroundedAt chosen nodes start before after) :
    inner.SurroundedAt chosen nodes (start + 1) 0 0 := by
  have around := surrounded.parts rfl
  have positive := inner.tokens_length_pos
  rw [length_group] at around
  exact around.shrink (by omega) (by omega) (if_neg (by omega)).symm (if_neg (by omega)).symm

end Group

section Unary

variable {op : Summary} {position : Nat} {operand : Expr}

theorem at_summary
    (surrounded : (unary op position operand).SurroundedAt chosen nodes start before after) :
    groupsOpened nodes start = before + (chosen ⟨start, unary op position operand⟩).toNat ∧
      groupsClosed nodes start = 0 := by
  have positive := operand.tokens_length_pos
  have length := length_unary op position operand
  exact surrounded.at_first rfl (operand.nodes_within (start + 1)) (by omega)

theorem of_unary
    (surrounded : (unary op position operand).SurroundedAt chosen nodes start before after) :
    operand.SurroundedAt chosen nodes (start + 1) 0
      (after + (chosen ⟨start, unary op position operand⟩).toNat) := by
  have around := surrounded.parts rfl
  have positive := operand.tokens_length_pos
  rw [length_unary] at around
  exact around.shrink (by omega) (by omega) (if_neg (by omega)).symm (if_pos (by omega)).symm

end Unary

section Binary

variable {op : BinaryOperator} {position : Nat} {lhs rhs : Expr}

theorem left_operand
    (surrounded : (binary op position lhs rhs).SurroundedAt chosen nodes start before after) :
    lhs.SurroundedAt chosen nodes start
      (before + (chosen ⟨start, binary op position lhs rhs⟩).toNat) 0 := by
  have around := surrounded.parts rfl
  have positive := lhs.tokens_length_pos
  have within := (rhs.nodes_within (start + lhs.tokens.length + 1)).filter chosen
  rw [length_binary, List.filter_append] at around
  refine Surrounded.left ?_ within (by omega)
  exact around.shrink (Nat.le_refl _) (by omega) (if_pos rfl).symm (if_neg (by omega)).symm

theorem right_operand
    (surrounded : (binary op position lhs rhs).SurroundedAt chosen nodes start before after) :
    rhs.SurroundedAt chosen nodes (start + lhs.tokens.length + 1) 0
      (after + (chosen ⟨start, binary op position lhs rhs⟩).toNat) := by
  have around := surrounded.parts rfl
  have positive := rhs.tokens_length_pos
  have within := (lhs.nodes_within start).filter chosen
  rw [length_binary, List.filter_append] at around
  refine Surrounded.right ?_ within (by omega)
  exact around.shrink (by omega) (by omega) (if_neg (by omega)).symm (if_pos (by omega)).symm

theorem at_operator
    (surrounded : (binary op position lhs rhs).SurroundedAt chosen nodes start before after) :
    groupsOpened nodes (start + lhs.tokens.length) = 0 ∧
      groupsClosed nodes (start + lhs.tokens.length) = 0 := by
  have around := surrounded.parts rfl
  have inLeft := (lhs.nodes_within start).filter chosen
  have inRight := (rhs.nodes_within (start + lhs.tokens.length + 1)).filter chosen
  have leftPositive := lhs.tokens_length_pos
  have rightPositive := rhs.tokens_length_pos
  rw [length_binary, List.filter_append] at around
  constructor
  · rw [around.opened _ (by omega) (by omega), groups_opened_append,
      inLeft.none_opened (.inr (Nat.le_refl _)), inRight.none_opened (.inl (Nat.lt_succ_self _)),
      if_neg (by omega)]
  · rw [around.closed _ (by omega) (by omega), groups_closed_append,
      inLeft.none_closed (.inr (Nat.le_refl _)), inRight.none_closed (.inl (Nat.lt_succ_self _)),
      if_neg (by omega)]

end Binary

end SurroundedAt

/-- The parentheses that are put around and into an expression are those of its groups. The groups
around the whole open with its first part and close with its last one, so the induction is for any
number of groups on either side. -/
theorem parenthesize_tokens (move : Nat → Nat) {expr : Expr}
    (surrounded : expr.SurroundedAt chosen nodes start before after) :
    parenthesize nodes start expr.tokens =
      List.replicate before .groupOpen ++
        ((expr.enclose chosen move start).tokens ++ List.replicate after .groupClose) := by
  induction expr generalizing start before after with
  | literal l =>
      have around := surrounded.parts rfl
      have empty : Within start start (List.filter chosen []) := nofun
      obtain ⟨opened, closed⟩ := around.at_edge empty (.inr (Nat.le_refl _)) (Nat.le_refl _)
        (Nat.le_refl _)
      rw [if_pos rfl] at opened
      rw [if_pos (by simp [tokens])] at closed
      rw [enclose, surround_group_if, tokens, parenthesize, opened, closed]
      simp [parenthesize]
  | group inner ih =>
      have inside := ih surrounded.of_group
      obtain ⟨opened, closed⟩ := surrounded.at_group_open
      obtain ⟨noneOpened, allClosed⟩ := surrounded.at_group_close
      rw [enclose, surround_group_if, tokens, List.cons_append, parenthesize, opened, closed,
        parenthesize_append, inside, parenthesize, noneOpened, allClosed]
      simp [tokens, parenthesize]
  | unary op position operand ih =>
      have inside := ih surrounded.of_unary
      obtain ⟨opened, closed⟩ := surrounded.at_summary
      rw [enclose, surround_group_if, tokens, parenthesize, opened, closed, inside]
      simp [tokens]
  | binary op position lhs rhs lhsIh rhsIh =>
      have left := lhsIh surrounded.left_operand
      have right := rhsIh surrounded.right_operand
      obtain ⟨noneOpened, noneClosed⟩ := surrounded.at_operator
      rw [enclose, surround_group_if, tokens, parenthesize_append, left, parenthesize, noneOpened,
        noneClosed, right]
      simp [tokens]

theorem enclose_placed {expr : Expr} (placed : expr.PlacedAt start)
    (surrounded : expr.SurroundedAt chosen nodes start before after) :
    (expr.enclose chosen (image nodes) start).PlacedAt (front nodes start + before) := by
  induction expr generalizing start before after with
  | literal l => exact (group_if_placed_iff _ _ _).mpr trivial
  | group inner ih =>
      have inside := ih placed surrounded.of_group
      obtain ⟨opened, closed⟩ := surrounded.at_group_open
      rw [front, opened, closed, ← Nat.add_assoc] at inside
      rw [enclose, group_if_placed_iff]
      exact inside
  | unary op position operand ih =>
      obtain ⟨rfl, operandPlaced⟩ := placed
      have inside := ih operandPlaced surrounded.of_unary
      obtain ⟨opened, closed⟩ := surrounded.at_summary
      rw [front, opened, closed, ← Nat.add_assoc] at inside
      rw [enclose, group_if_placed_iff]
      refine ⟨?_, inside⟩
      rw [image, opened, Nat.add_assoc]
  | binary op position lhs rhs lhsIh rhsIh =>
      obtain ⟨lhsPlaced, rfl, rhsPlaced⟩ := placed
      have left := lhsIh lhsPlaced surrounded.left_operand
      have right := rhsIh rhsPlaced surrounded.right_operand
      obtain ⟨noneOpened, noneClosed⟩ := surrounded.at_operator
      -- The left operand decides where the operator stands.
      have length := front_add nodes start lhs.tokens
      rw [parenthesize_tokens (image nodes) surrounded.left_operand] at length
      simp only [List.length_append, List.length_replicate] at length
      rw [front, noneOpened, noneClosed] at right
      rw [enclose, group_if_placed_iff, image, noneOpened]
      rw [← Nat.add_assoc] at left
      exact ⟨left, by omega, right⟩

theorem enclose_level (move : Nat → Nat) (expr : Expr) :
    expr.level ≤ (expr.enclose chosen move start).level := by
  cases expr with
  | literal l => exact level_le_group_if _ _ (Nat.le_refl _)
  | group inner => exact level_le_group_if _ _ (Nat.le_refl _)
  | unary op position operand => exact level_le_group_if _ _ (Nat.le_refl _)
  | binary op position lhs rhs => exact level_le_group_if _ _ (Nat.le_refl _)

theorem enclose_respects (move : Nat → Nat) {expr : Expr} (respects : expr.RespectsPrecedence) :
    (expr.enclose chosen move start).RespectsPrecedence := by
  induction expr generalizing start with
  | literal l => exact (group_if_respects_iff _ _).mpr trivial
  | group inner ih => exact (group_if_respects_iff _ _).mpr (ih respects)
  | unary op position operand ih =>
      obtain ⟨tight, operandRespects⟩ := respects
      refine (group_if_respects_iff _ _).mpr ⟨?_, ih operandRespects⟩
      exact Nat.le_trans tight (operand.enclose_level move)
  | binary op position lhs rhs lhsIh rhsIh =>
      obtain ⟨lhsTight, rhsTight, lhsRespects, rhsRespects⟩ := respects
      refine (group_if_respects_iff _ _).mpr ⟨?_, ?_, lhsIh lhsRespects, rhsIh rhsRespects⟩
      · exact Nat.le_trans lhsTight (lhs.enclose_level move)
      · exact Nat.lt_of_lt_of_le rhsTight (rhs.enclose_level move)

/-- The same expression without any groups. Its structure does not depend on them. -/
def ungroup : Expr → Expr
  | literal l => literal l
  | group inner => inner.ungroup
  | unary op position operand => unary op position operand.ungroup
  | binary op position lhs rhs => binary op position lhs.ungroup rhs.ungroup

theorem ungroup_group_if (enclosed : Bool) (expr : Expr) :
    (expr.groupIf enclosed).ungroup = expr.ungroup := by
  cases enclosed <;> rfl

theorem ungroup_enclose (move : Nat → Nat) (expr : Expr) :
    (expr.enclose chosen move start).ungroup = (expr.relocate move).ungroup := by
  induction expr generalizing start with
  | literal l => exact ungroup_group_if _ _
  | group inner ih => rw [enclose, ungroup_group_if, ungroup, ih, relocate, ungroup]
  | unary op position operand ih =>
      rw [enclose, ungroup_group_if, ungroup, ih, relocate, ungroup]
  | binary op position lhs rhs lhsIh rhsIh =>
      rw [enclose, ungroup_group_if, ungroup, lhsIh, rhsIh, relocate, ungroup]

end Expr

namespace Roll

def ungroup : Roll → Roll
  | diceMap name map => diceMap name map
  | expression expr => expression expr.ungroup

theorem enclosed {chosen : Node → Bool} {nodes : List Node} {roll : Roll} {start : Nat}
    (placed : roll.PlacedAt start) (respects : roll.RespectsPrecedence)
    (surrounded : Surrounded nodes ((roll.nodes start).filter chosen) start
      (start + roll.tokens.length - 1) 0 0) :
    ∃ grouped : Roll, parenthesize nodes start roll.tokens = grouped.tokens ∧
      grouped.PlacedAt (front nodes start) ∧ grouped.RespectsPrecedence ∧
      grouped.ungroup = (roll.relocate (image nodes)).ungroup := by
  cases roll with
  | diceMap name map =>
      have opened := surrounded.opened start (Nat.le_refl _) (Nat.le_refl _)
      have closed := surrounded.closed start (Nat.le_refl _) (Nat.le_refl _)
      rw [ite_self] at opened closed
      have written : parenthesize nodes start [.diceMap name map] = [.diceMap name map] := by
        rw [parenthesize, opened, closed]
        rfl
      exact ⟨.diceMap name map, written, trivial, trivial, rfl⟩
  | expression expr =>
      have written := Expr.parenthesize_tokens (image nodes) surrounded
      have enclosedPlaced := Expr.enclose_placed placed surrounded
      rw [List.replicate_zero, List.replicate_zero, List.nil_append, List.append_nil] at written
      exact ⟨.expression (expr.enclose chosen (image nodes) start), written, enclosedPlaced,
        Expr.enclose_respects _ respects, congrArg expression (expr.ungroup_enclose _)⟩

end Roll

/-- With the chosen nodes in parentheses, the tokens are a writing of rolls that differ only in
their groups. -/
theorem Writing.enclosed {chosen : Node → Bool} {nodes : List Node} {start : Nat}
    {tokens : List Token} {rolls : List Roll} (writing : Writing start tokens rolls)
    (respects : ∀ roll ∈ rolls, roll.RespectsPrecedence)
    (surrounded : Surrounded nodes ((rollNodes start tokens rolls).filter chosen) start
      (start + tokens.length) 0 0) :
    ∃ grouped, Writing (front nodes start) (parenthesize nodes start tokens) grouped ∧
      (∀ roll ∈ grouped, roll.RespectsPrecedence) ∧
      grouped.map Roll.ungroup =
        (rolls.map (Roll.relocate (image nodes))).map Roll.ungroup := by
  induction writing with
  | nothing start => exact ⟨[], .nothing _, nofun, rfl⟩
  | @delimiter start tokens rolls rest ih =>
      rw [roll_nodes_delimiter, List.length_cons] at surrounded
      obtain ⟨opened, closed⟩ := surrounded.at_delimiter (rest.nodes_within.filter chosen) (by omega)
      obtain ⟨grouped, writing, groupedRespect, same⟩ := ih respects
        (surrounded.shrink_bare (by omega) (by omega))
      rw [front, opened, closed] at writing
      rw [parenthesize, opened, closed]
      exact ⟨grouped, .delimiter writing, groupedRespect, same⟩
  | @last start roll placed =>
      rw [roll_nodes_last] at surrounded
      obtain ⟨grouped, written, groupedPlaced, groupedRespects, same⟩ := roll.enclosed placed
        (respects roll List.mem_cons_self)
        (surrounded.shrink_bare (by omega) (by omega))
      rw [written]
      refine ⟨[grouped], .last groupedPlaced, ?_, congrArg (fun roll => [roll]) same⟩
      simpa using groupedRespects
  | @roll start roll tokens rolls placed rest ih =>
      have positive := roll.tokens_length_pos
      have inRest := rest.nodes_within.filter chosen
      have inRoll := (roll.nodes_within start).filter chosen
      rw [roll_nodes_roll, roll_nodes_delimiter, List.filter_append, List.length_append,
        List.length_cons] at surrounded
      -- The nodes of this roll and of the later ones do not meet at the delimiter between them.
      have here : Surrounded nodes ((roll.nodes start).filter chosen) start
          (start + roll.tokens.length - 1) 0 0 := by
        refine Surrounded.left ?_ inRest (by omega)
        exact surrounded.shrink_bare (by omega) (by omega)
      have behind : Surrounded nodes
          ((rollNodes (start + roll.tokens.length + 1) tokens rolls).filter chosen)
          (start + roll.tokens.length) (start + (roll.tokens.length + (tokens.length + 1))) 0 0 := by
        refine Surrounded.right ?_ inRoll (Nat.le_refl _)
        exact surrounded.shrink_bare (by omega) (by omega)
      obtain ⟨opened, closed⟩ := behind.at_delimiter inRest (by omega)
      obtain ⟨first, written, firstPlaced, firstRespects, sameFirst⟩ :=
        roll.enclosed placed (respects roll List.mem_cons_self) here
      obtain ⟨others, writing, othersRespect, sameOthers⟩ :=
        ih (fun other member => respects other (List.mem_cons_of_mem _ member))
          (behind.shrink_bare (by omega) (by omega))
      rw [front, opened, closed, front_add, written] at writing
      rw [parenthesize_append, written, parenthesize, opened, closed]
      refine ⟨first :: others, .roll firstPlaced writing,
        List.forall_mem_cons.mpr ⟨firstRespects, othersRespect⟩, ?_⟩
      rw [List.map_cons, List.map_cons, List.map_cons, sameFirst, sameOthers]

end DiceLang
