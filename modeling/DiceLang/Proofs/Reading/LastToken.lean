import DiceLang.Proofs.Reading.Faults

/-!
# The last token tells the phase

A reader that has taken a token is in a phase that the token alone determines, whatever was read
before it and in however many groups it stands. A fault is reported in the phase of the reader
that found it. Only the very first token is looked at in two ways: a token that cannot begin a
roll is refused before the start, any other one once the roll has begun.
-/

namespace DiceLang

set_option autoImplicit false

/-- The phase behind a token that was taken. -/
def Token.phaseBehind : Token → Phase
  | delimiter | groupOpen => .started
  | literal _ | groupClose => .value
  | operator _ _ => .operator
  | diceMap _ _ => .ended

namespace Reader

theorem Takes.last_step {reader last : Reader} {position : Nat} {tokens : List Token}
    {rolls : List Roll} (takes : reader.Takes position tokens rolls last) (nonempty : tokens ≠ []) :
    ∃ (before : List Token) (token : Token) (previous : Reader) (index : Nat) (roll : Option Roll),
      tokens = before ++ [token] ∧ previous.step index token = .ok (last, roll) := by
  induction takes with
  | nothing reader position => exact absurd rfl nonempty
  | @token reader next last position token tokens roll rolls taken takes ih =>
      by_cases empty : tokens = []
      · subst empty
        cases takes with
        | nothing => exact ⟨[], token, reader, position, roll, rfl, taken⟩
      · obtain ⟨before, final, previous, index, given, split, finalStep⟩ := ih empty
        exact ⟨token :: before, final, previous, index, given, by rw [split, List.cons_append],
          finalStep⟩

/-- The readers that can stand behind a token: what lies below the top of the stack and what the
operand holds depend on the tokens before it, the rest does not. -/
inductive Behind : Token → Reader → Prop
  | delimiter : Behind .delimiter between
  | diceMap (name : String) (diceMap : DiceMap) : Behind (.diceMap name diceMap) (map name diceMap)
  | literal (l : Literal) (stack : List Frame) (expr : Expr) :
      Behind (.literal l) (holding stack expr)
  | groupOpen (position : Nat) (stack : List Frame) :
      Behind .groupOpen (wanting (.group position :: stack))
  | groupClose (stack : List Frame) (expr : Expr) : Behind .groupClose (holding stack expr)
  | summary (op : Summary) (position : Nat) (stack : List Frame) :
      Behind op.token (wanting (.unary op position :: stack))
  | binary (op : BinaryOperator) (position : Nat) (lhs : Expr) (stack : List Frame) :
      Behind op.token (wanting (.binary op position lhs :: stack))

theorem behind_of_take_operand {stack : List Frame} {position : Nat} {token : Token}
    {next : Reader} (taken : takeOperand stack position token = .ok next) :
    Behind token next := by
  rcases take_operand_ok_iff.mp taken with ⟨l, rfl, rfl⟩ | ⟨rfl, rfl⟩ | ⟨op, rfl, _, rfl⟩
  · exact .literal l _ _
  · exact .groupOpen _ _
  · exact .summary op _ _

theorem behind_of_take_start {reader next : Reader} {position : Nat} {token : Token}
    (taken : reader.takeStart position token = .ok next) : Behind token next := by
  rcases take_start_ok_iff.mp taken with ⟨rfl, rfl⟩ | ⟨name, diceMap, rfl, rfl⟩ | operand
  · exact .delimiter
  · exact .diceMap name diceMap
  · exact behind_of_take_operand operand

theorem behind_of_step {reader next : Reader} {position : Nat} {token : Token}
    {roll : Option Roll} (taken : reader.step position token = .ok (next, roll)) :
    Behind token next := by
  cases reader with
  | start => exact behind_of_take_start ((step_outside_ok_iff start_outside).mp taken).1
  | between => exact behind_of_take_start ((step_outside_ok_iff between_outside).mp taken).1
  | map name diceMap =>
      obtain ⟨rfl, rfl, _⟩ := step_map_ok_iff.mp taken
      exact .delimiter
  | wanting stack => exact behind_of_take_operand (step_wanting_ok_iff.mp taken).1
  | holding stack expr =>
      rcases step_holding_ok_iff.mp taken with ⟨op, rfl, rfl, _⟩ | ended
      · exact .binary op _ _ _
      · rcases take_end_ok_iff.mp ended with ⟨_, _, _, rfl, rfl, _⟩ | ⟨_, rfl, rfl, _⟩
        · exact .groupClose _ _
        · exact .delimiter

theorem Behind.phase_eq {token : Token} {reader : Reader} (behind : Behind token reader) :
    reader.phase = token.phaseBehind := by
  cases behind with
  | delimiter => rfl
  | diceMap name diceMap => rfl
  | literal l stack expr => rfl
  | groupOpen position stack => rfl
  | groupClose stack expr => rfl
  | summary op position stack => rfl
  | binary op position lhs stack => rfl

theorem Behind.ne_start {token : Token} {reader : Reader} (behind : Behind token reader) :
    reader ≠ start := by
  rintro rfl
  cases behind

/-- The phase in which the reader reports a problem. -/
def faultPhase (reader : Reader) (problem : Problem) : Phase :=
  match reader with
  | start => if problem = .badStart then .beforeStart else .started
  | _ => reader.phase

theorem fault_phase_of_ne_start {reader : Reader} (begun : reader ≠ start) (problem : Problem) :
    reader.faultPhase problem = reader.phase := by
  cases reader with
  | start => exact absurd rfl begun
  | _ => rfl

theorem take_operand_fault_phase (stack : List Frame) (position : Nat) (token : Token) :
    FailsOnly (fun fault => fault.phase = (wanting stack).phase ∧ fault.problem ≠ .badStart)
      (takeOperand stack position token) := by
  unfold takeOperand
  dsimp only
  split
  · trivial
  · trivial
  · split
    · split
      · trivial
      · exact ⟨rfl, nofun⟩
    · exact ⟨rfl, nofun⟩
  · exact ⟨rfl, nofun⟩
  · exact ⟨rfl, nofun⟩

theorem outside_cases {reader : Reader} (outside : reader.Outside) :
    reader = start ∨ reader = between := by
  cases reader with
  | start => exact .inl rfl
  | between => exact .inr rfl
  | map name diceMap => exact outside.elim
  | wanting stack => exact outside.elim
  | holding stack expr => exact outside.elim

theorem fault_phase_outside {reader : Reader} (outside : reader.Outside) (problem : Problem) :
    reader.faultPhase problem = if problem = .badStart then reader.phase else .started := by
  rcases outside_cases outside with rfl | rfl
  · rfl
  · exact (ite_self _).symm

theorem take_start_fault_phase {reader : Reader} (outside : reader.Outside) (position : Nat)
    (token : Token) :
    FailsOnly (fun fault => fault.phase = reader.faultPhase fault.problem)
      (reader.takeStart position token) := by
  unfold takeStart
  split
  · trivial
  · trivial
  · split
    · have fails := take_operand_fault_phase [] position token
      cases taken : takeOperand [] position token with
      | ok next => trivial
      | error fault =>
          rw [taken] at fails
          obtain ⟨isStarted, notBadStart⟩ := fails
          exact isStarted.trans ((fault_phase_outside outside _).trans (if_neg notBadStart)).symm
    · exact (fault_phase_outside outside .badStart).symm

theorem take_end_fault_phase (stack : List Frame) (expr : Expr) (position : Nat) (token : Token) :
    FailsOnly (fun fault => fault.phase = .value) (takeEnd stack expr position token) := by
  unfold takeEnd
  dsimp only
  split
  · trivial
  · rfl
  · trivial
  · rfl

theorem take_operator_fault_phase (stack : List Frame) (expr : Expr) (position : Nat)
    (operatorClass : OperatorClass) (symbol : String) :
    FailsOnly (fun fault => fault.phase = .value)
      (takeOperator stack expr position operatorClass symbol) := by
  unfold takeOperator
  split
  · trivial
  · rfl

theorem step_fault_phase (reader : Reader) (position : Nat) (token : Token) :
    FailsOnly (fun fault => fault.phase = reader.faultPhase fault.problem)
      (reader.step position token) := by
  cases reader with
  | start => exact (take_start_fault_phase start_outside position token).map _
  | between => exact (take_start_fault_phase between_outside position token).map _
  | map name diceMap =>
      cases token with
      | delimiter => trivial
      | _ => rfl
  | wanting stack =>
      have fails := take_operand_fault_phase stack position token
      unfold step
      dsimp only
      cases taken : takeOperand stack position token with
      | ok next => trivial
      | error fault =>
          rw [taken] at fails
          exact fails.1
  | holding stack expr =>
      unfold step
      dsimp only
      split
      · exact take_end_fault_phase stack expr position _
      · exact (take_operator_fault_phase stack expr position _ _).map _
      · exact take_end_fault_phase stack expr position token

theorem finish_fault_phase {reader : Reader} {length : Nat} {fault : ReadError}
    (failed : reader.finish length = .error fault) :
    fault.phase = reader.faultPhase fault.problem := by
  rcases finish_error_cases failed with ⟨stack, rfl, rfl⟩ | ⟨stack, expr, _, _, rfl, _, rfl⟩
  · rfl
  · rfl

end Reader

/-- What is reported behind some tokens is told by the last of them, or by the problem if there are
none. -/
theorem Reader.Takes.fault_phase {tokens : List Token} {rolls : List Roll} {last : Reader}
    (takes : Reader.start.Takes 0 tokens rolls last) {fault : ReadError}
    (reported : fault.phase = last.faultPhase fault.problem) (after : List Token) :
    (tokens.length = 0 →
      fault.phase = if fault.problem = .badStart then .beforeStart else .started) ∧
    (0 < tokens.length →
      ∃ token, (tokens ++ after)[tokens.length - 1]? = some token ∧
        fault.phase = token.phaseBehind) := by
  constructor
  · intro empty
    cases List.eq_nil_of_length_eq_zero empty
    cases takes with
    | nothing => exact reported
  · intro nonempty
    obtain ⟨before, token, previous, index, roll, split, taken⟩ :=
      takes.last_step (List.ne_nil_of_length_pos nonempty)
    have behind := Reader.behind_of_step taken
    refine ⟨token, by simp [split], ?_⟩
    rw [reported, ← behind.phase_eq]
    exact Reader.fault_phase_of_ne_start behind.ne_start fault.problem

/-- The phase of a fault is told by the token in front of it, where a group that is left open is
found behind the last token. Without a token in front, a fault is found before the start if the
token cannot begin a roll, and else in a roll that has begun. -/
theorem phase_told_by_last_token {tokens : List Token} {fault : ReadError}
    (failed : readRolls tokens = .error fault) :
    let reached := if fault.problem = .unclosedGroup then tokens.length else fault.position
    (reached = 0 →
      fault.phase = if fault.problem = .badStart then .beforeStart else .started) ∧
    (0 < reached →
      ∃ token, tokens[reached - 1]? = some token ∧ fault.phase = token.phaseBehind) := by
  intro reached
  rcases read_rolls_error_cases failed with
    ⟨before, token, after, rolls, rfl, refuses⟩ | ⟨rolls, last, takes, finished⟩
  · obtain ⟨_, ⟨own, isRefusal⟩, _⟩ := refused_after_viable refuses
    obtain ⟨last, takes, refused⟩ := refuses
    have reported := last.step_fault_phase (0 + before.length) token
    rw [refused] at reported
    have here : reached = before.length := by
      have notOpen : fault.problem ≠ .unclosedGroup := by
        intro same
        rw [same] at isRefusal
        exact isRefusal
      exact (if_neg notOpen).trans own
    rw [here]
    exact takes.fault_phase reported (token :: after)
  · have reported := Reader.finish_fault_phase finished
    have here : reached = tokens.length := by
      rcases Reader.finish_error_cases finished with
        ⟨stack, rfl, rfl⟩ | ⟨stack, expr, opened, rest, rfl, _, rfl⟩
      · exact if_neg nofun
      · exact if_pos rfl
    have told := takes.fault_phase reported []
    rw [List.append_nil] at told
    rw [here]
    exact told

/-- A summary that nobody knows at the very start, a group left open behind an operand, and a dice
map that is not alone. -/
theorem phase_told_by_last_token_start_group_and_map :
    let one : Token := .literal (.number 1)
    let unknown : List Token := [.operator .summary "X", one]
    let unclosed : List Token := [.groupOpen, .groupOpen, one, .groupClose]
    let notAlone : List Token := [one, .delimiter, .diceMap "m" .empty, one]
    let unknownFault : ReadError := ⟨.unknownOperator (.operator .summary) "X", .started, 0⟩
    let unclosedFault : ReadError := ⟨.unclosedGroup, .value, 0⟩
    let notAloneFault : ReadError := ⟨.mapNotAlone, .ended, 3⟩
    (readRolls unknown = .error unknownFault ∧ unknownFault.phase = .started) ∧
    (readRolls unclosed = .error unclosedFault ∧
      ∃ token, unclosed[3]? = some token ∧ unclosedFault.phase = token.phaseBehind) ∧
    readRolls notAlone = .error notAloneFault ∧
      ∃ token, notAlone[2]? = some token ∧ notAloneFault.phase = token.phaseBehind := by
  intro one unknown unclosed notAlone unknownFault unclosedFault notAloneFault
  have isUnknown : readRolls unknown = .error unknownFault := by rfl
  have isUnclosed : readRolls unclosed = .error unclosedFault := by rfl
  have isNotAlone : readRolls notAlone = .error notAloneFault := by rfl
  exact ⟨⟨isUnknown, (phase_told_by_last_token isUnknown).1 rfl⟩,
    ⟨isUnclosed, (phase_told_by_last_token isUnclosed).2 (by decide)⟩,
    isNotAlone, (phase_told_by_last_token isNotAlone).2 (by decide)⟩

end DiceLang
