import DiceLang.Proofs.Errors
import DiceLang.Proofs.Reading.Prefixes

/-!
# Faults are found as early as possible

Whatever the reader has taken can still be completed: an operand is supplied if one is wanted, and
every open group is closed. So a token is refused only where no list goes on with it, and the
refusal does not depend on what stands behind the token. The end of the tokens is a fault of its
own: an operand is missing, or a group is open. Which groups are open can be told from the
parentheses alone.
-/

namespace DiceLang

set_option autoImplicit false

open DiceLang.Frame (reduce)

/-- The opening parentheses that are open behind a token at `position`, the innermost first. -/
def Token.groupsBehind (position : Nat) (opened : List Nat) : Token → List Nat
  | groupOpen => position :: opened
  | groupClose => opened.tail
  | _ => opened

/-- The indices of the opening parentheses that the tokens leave open, the innermost first, if
those in `opened` are open in front of them. -/
def unclosedGroups (position : Nat) (opened : List Nat) : List Token → List Nat
  | [] => opened
  | token :: rest => unclosedGroups (position + 1) (token.groupsBehind position opened) rest

namespace Frame

def groups : List Frame → List Nat
  | [] => []
  | group position :: rest => position :: groups rest
  | unary _ _ :: rest => groups rest
  | binary _ _ _ :: rest => groups rest

/-- Operators are handed over within the innermost group, so all groups stay open. -/
theorem reduce_keeps_groups (level : Nat) (stack : List Frame) (expr : Expr) :
    groups (reduce level stack expr).1 = groups stack := by
  fun_induction reduce level stack expr with
  | case1 expr op position lhs rest binds ih => exact ih
  | case2 expr op position lhs rest loose => rfl
  | case3 expr op position rest binds ih => exact ih
  | case4 expr op position rest loose => rfl
  | case5 stack expr noBinary noUnary => rfl

end Frame

open DiceLang.Frame (groups reduce_keeps_groups reduce_zero_stack)

namespace Reader

def openGroups : Reader → List Nat
  | wanting stack => groups stack
  | holding stack _ => groups stack
  | _ => []

theorem open_groups_of_take_operand {stack : List Frame} {position : Nat} {token : Token}
    {next : Reader} (taken : takeOperand stack position token = .ok next) :
    next.openGroups = token.groupsBehind position (groups stack) := by
  rcases take_operand_ok_iff.mp taken with ⟨l, rfl, rfl⟩ | ⟨rfl, rfl⟩ | ⟨op, rfl, _, rfl⟩
  · rfl
  · rfl
  · rfl

theorem open_groups_outside {reader : Reader} (outside : reader.Outside) :
    reader.openGroups = [] := by
  cases reader with
  | start => rfl
  | between => rfl
  | map name diceMap => rfl
  | wanting stack => exact outside.elim
  | holding stack expr => exact outside.elim

theorem open_groups_of_step {reader next : Reader} {position : Nat} {token : Token}
    {roll : Option Roll} (taken : reader.step position token = .ok (next, roll)) :
    next.openGroups = token.groupsBehind position reader.openGroups := by
  have fromOutside (outside : reader.Outside) :
      next.openGroups = token.groupsBehind position reader.openGroups := by
    rw [open_groups_outside outside]
    obtain ⟨started, _⟩ := (step_outside_ok_iff outside).mp taken
    rcases take_start_ok_iff.mp started with ⟨rfl, rfl⟩ | ⟨name, diceMap, rfl, rfl⟩ | operand
    · rfl
    · rfl
    · exact open_groups_of_take_operand operand
  cases reader with
  | start => exact fromOutside start_outside
  | between => exact fromOutside between_outside
  | map name diceMap =>
      obtain ⟨rfl, rfl, _⟩ := step_map_ok_iff.mp taken
      rfl
  | wanting stack =>
      obtain ⟨operand, _⟩ := step_wanting_ok_iff.mp taken
      exact open_groups_of_take_operand operand
  | holding stack expr =>
      have same := reduce_keeps_groups 0 stack expr
      rcases step_holding_ok_iff.mp taken with ⟨op, rfl, rfl, _⟩ | ended
      · exact reduce_keeps_groups op.level stack expr
      · rcases take_end_ok_iff.mp ended with
          ⟨opened, rest, grouped, rfl, rfl, _⟩ | ⟨empty, rfl, rfl, _⟩
        · rw [grouped] at same
          rw [openGroups, openGroups, ← same]
          rfl
        · rw [empty] at same
          exact same

theorem Takes.open_groups {reader last : Reader} {position : Nat} {tokens : List Token}
    {rolls : List Roll} (takes : reader.Takes position tokens rolls last) :
    last.openGroups = unclosedGroups position reader.openGroups tokens := by
  induction takes with
  | nothing reader position => rfl
  | token taken takes ih => rw [ih, open_groups_of_step taken, unclosedGroups]

theorem finish_without_groups {stack : List Frame} (closed : groups stack = []) (expr : Expr)
    (length : Nat) : ∃ roll, (holding stack expr).finish length = .ok roll := by
  cases finished : (holding stack expr).finish length with
  | ok roll => exact ⟨roll, rfl⟩
  | error fault =>
      rcases finish_error_cases finished with
        ⟨_, isWanting, _⟩ | ⟨_, _, opened, rest, same, grouped, _⟩
      · cases isWanting
      · cases same
        have stillOpen := reduce_keeps_groups 0 stack expr
        rw [grouped, closed] at stillOpen
        cases stillOpen

theorem step_group_close {stack : List Frame} {opened : Nat} {outer : List Nat}
    (isOpen : groups stack = opened :: outer) (expr : Expr) (position : Nat) :
    ∃ rest inner, (holding stack expr).step position .groupClose =
      .ok (holding rest (.group inner), none) ∧ groups rest = outer := by
  have same := reduce_keeps_groups 0 stack expr
  rcases reduce_zero_stack stack expr with empty | ⟨innermost, rest, grouped⟩
  · rw [empty, isOpen] at same
    cases same
  · rw [grouped, isOpen] at same
    have closes : takeEnd stack expr position .groupClose =
        .ok (holding rest (.group (reduce 0 stack expr).2), none) :=
      take_end_ok_iff.mpr (.inl ⟨innermost, rest, grouped, rfl, rfl, rfl⟩)
    exact ⟨rest, _, step_holding_ok_iff.mpr (.inr closes), (List.cons.inj same).2⟩

end Reader

namespace Reading

/-- Closing all open groups behind an operand completes the roll. The induction is on the number
of groups; each closing parenthesis leaves an operand behind it. -/
theorem closing_groups_clean {outer : List Nat} {stack : List Frame}
    (isOpen : groups stack = outer) (expr : Expr) (position : Nat) :
    (goOn (.holding stack expr) position (List.replicate outer.length .groupClose)).fault =
      none := by
  induction outer generalizing stack expr position with
  | nil =>
      obtain ⟨roll, finished⟩ := Reader.finish_without_groups isOpen expr position
      rw [List.length_nil, List.replicate_zero, goOn, finished]
  | cons opened outer ih =>
      obtain ⟨rest, inner, closed, sameOuter⟩ := Reader.step_group_close isOpen expr position
      rw [List.length_cons, List.replicate_succ, go_on_of_silent_step closed]
      exact ih sameOuter (.group inner) (position + 1)

/-- No reader is in a state from which a list cannot be completed. -/
theorem can_be_completed (reader : Reader) (position : Nat) :
    ∃ suffix, (goOn reader position suffix).fault = none := by
  cases reader with
  | start => exact ⟨[], rfl⟩
  | between => exact ⟨[], rfl⟩
  | map name diceMap => exact ⟨[], rfl⟩
  | wanting stack =>
      have taken : (Reader.wanting stack).step position (.literal (.number 0)) =
          .ok (.holding stack (.literal (.number 0)), none) := rfl
      refine ⟨.literal (.number 0) :: List.replicate (groups stack).length .groupClose, ?_⟩
      rw [go_on_of_silent_step taken]
      exact closing_groups_clean rfl _ _
  | holding stack expr => exact ⟨_, closing_groups_clean rfl expr position⟩

end Reading

theorem read_rolls_of_completion {tokens suffix : List Token} {rolls : List Roll} {last : Reader}
    (takes : Reader.start.Takes 0 tokens rolls last)
    (clean : (Reading.goOn last tokens.length suffix).fault = none) :
    ∃ all, readRolls (tokens ++ suffix) = .ok all := by
  apply read_rolls_of_clean
  rw [Reading.ofTokens, Reading.go_on_append takes, Nat.zero_add]
  exact clean

theorem read_rolls_error_cases {tokens : List Token} {fault : ReadError}
    (failed : readRolls tokens = .error fault) :
    (∃ before token after rolls, tokens = before ++ token :: after ∧
      Reader.start.RefusesAfter 0 before token rolls fault) ∨
    ∃ rolls last, Reader.start.Takes 0 tokens rolls last ∧
      last.finish tokens.length = .error fault := by
  have found := read_rolls_error_iff.mp failed
  rcases Reading.of_tokens_cases tokens with ⟨rolls, last, roll, _, _, whole⟩ |
    ⟨rolls, last, other, takes, finished, whole⟩ |
    ⟨before, token, after, rolls, other, split, refuses, whole⟩
  · rw [whole] at found
    cases found
  · rw [whole] at found
    cases found
    exact .inr ⟨rolls, last, takes, finished⟩
  · rw [whole] at found
    cases found
    exact .inl ⟨before, token, after, rolls, split, refuses⟩

/-- The tokens in front of a refused one can be completed; with it they are refused whatever
follows. -/
theorem refused_after_viable {before : List Token} {token : Token} {rolls : List Roll}
    {fault : ReadError} (refuses : Reader.start.RefusesAfter 0 before token rolls fault) :
    (∃ suffix all, readRolls (before ++ suffix) = .ok all) ∧
      fault.RefusesToken before.length ∧
      ∀ suffix, readRolls (before ++ token :: suffix) = .error fault := by
  obtain ⟨last, takes, refused⟩ := refuses
  obtain ⟨suffix, clean⟩ := Reading.can_be_completed last before.length
  have fails := last.step_fails (0 + before.length) token
  rw [refused, Nat.zero_add] at fails
  refine ⟨⟨suffix, read_rolls_of_completion takes clean⟩, fails, fun suffix => ?_⟩
  apply read_rolls_error_iff.mpr
  rw [Reading.ofTokens, Reading.go_on_refused ⟨last, takes, refused⟩]

/-- A fault other than an open group has a viable list in front of it, and a token that is refused
is refused in the same way whatever follows it. A missing operand is reported behind the last token,
an open group at its parenthesis; closing all open groups then mends the list. -/
theorem faults_found_early {tokens : List Token} {fault : ReadError}
    (failed : readRolls tokens = .error fault) :
    (fault.problem ≠ .unclosedGroup →
      ∃ suffix rolls, readRolls (tokens.take fault.position ++ suffix) = .ok rolls) ∧
    (fault.problem ≠ .unclosedGroup → (∀ expected, fault.problem ≠ .unexpectedEnd expected) →
      fault.position < tokens.length ∧
        ∀ suffix, readRolls (tokens.take (fault.position + 1) ++ suffix) = .error fault) ∧
    (∀ expected, fault.problem = .unexpectedEnd expected → fault.position = tokens.length) ∧
    (fault.problem = .unclosedGroup →
      (unclosedGroups 0 [] tokens).head? = some fault.position ∧
        ∃ rolls, readRolls (tokens ++
          List.replicate (unclosedGroups 0 [] tokens).length .groupClose) = .ok rolls) := by
  rcases read_rolls_error_cases failed with
    ⟨before, token, after, rolls, rfl, refuses⟩ | ⟨rolls, last, takes, finished⟩
  · obtain ⟨viable, ⟨own, isRefusal⟩, always⟩ := refused_after_viable refuses
    have upTo : (before ++ token :: after).take (before.length + 1) = before ++ [token] := by
      rw [List.append_cons]
      exact List.take_left' (by simp)
    rw [own, List.take_left, upTo]
    refine ⟨fun _ => viable, fun _ _ => ⟨by simp, fun suffix => ?_⟩, fun expected same => ?_,
      fun same => ?_⟩
    · rw [List.append_assoc]
      exact always suffix
    · rw [same] at isRefusal
      exact isRefusal.elim
    · rw [same] at isRefusal
      exact isRefusal.elim
  · have stillOpen := takes.open_groups
    rcases Reader.finish_error_cases finished with
      ⟨stack, rfl, rfl⟩ | ⟨stack, expr, opened, rest, rfl, grouped, rfl⟩
    · obtain ⟨suffix, clean⟩ := Reading.can_be_completed (.wanting stack) tokens.length
      have viable := read_rolls_of_completion takes clean
      rw [List.take_length]
      exact ⟨fun _ => ⟨suffix, viable⟩, fun _ other => absurd rfl (other _), fun _ _ => rfl,
        nofun⟩
    · have clean := Reading.closing_groups_clean stillOpen expr tokens.length
      have innermost : unclosedGroups 0 [] tokens = opened :: groups rest := by
        have same := reduce_keeps_groups 0 stack expr
        rw [grouped] at same
        exact stillOpen.symm.trans same.symm
      refine ⟨fun other => absurd rfl other, fun other => absurd rfl other, nofun, fun _ => ?_⟩
      exact ⟨by rw [innermost]; rfl, read_rolls_of_completion takes clean⟩

/-- Two groups left open, and an operator that its class does not know. -/
theorem faults_found_early_open_and_unknown :
    let one : Token := .literal (.number 1)
    let unclosed : List Token := [.groupOpen, one, .operator .additive "+", .groupOpen, one]
    let unknown : List Token := [.groupOpen, one, .operator .additive "*", one, .groupClose]
    let fault : ReadError :=
      ⟨.unknownOperator (.operator .additive) "*", .value, 2⟩
    (readRolls unclosed = .error ⟨.unclosedGroup, .value, 3⟩ ∧
      (unclosedGroups 0 [] unclosed).head? = some 3 ∧
      ∃ rolls, readRolls (unclosed ++ [.groupClose, .groupClose]) = .ok rolls) ∧
    readRolls unknown = .error fault ∧
      (∃ suffix rolls, readRolls ([.groupOpen, one] ++ suffix) = .ok rolls) ∧
      ∀ suffix, readRolls ([.groupOpen, one, .operator .additive "*"] ++ suffix) =
        .error fault := by
  intro one unclosed unknown fault
  have isOpen : readRolls unclosed = .error ⟨.unclosedGroup, .value, 3⟩ := by rfl
  have isUnknown : readRolls unknown = .error fault := by rfl
  obtain ⟨_, _, _, mended⟩ := faults_found_early isOpen
  obtain ⟨viable, refused, _, _⟩ := faults_found_early isUnknown
  exact ⟨⟨isOpen, mended rfl⟩, isUnknown, viable nofun, (refused nofun nofun).2⟩

end DiceLang
