import DiceLang.Proofs.Reading.LastToken

/-!
# Announced kinds

A reader that refuses a token, or that finds no more tokens where an operand is missing, announces
the kinds of tokens that could have stood there. A token of each of these kinds is indeed taken,
with one exception: summaries are announced wherever an operand is missing, but none can stand
behind an operator that binds tighter than they do. There, and nowhere else, the kind that was
refused is itself among those announced.
-/

namespace DiceLang

set_option autoImplicit false

open DiceLang.Frame (admitsSummary admits_summary_iff groups reduce reduce_keeps_groups reduce_zero_stack)

/-- The operators that bind tighter than summaries do. -/
def Token.ExcludesSummary : Token → Prop
  | operator .pool _ | operator .poolGeneration _ => True
  | _ => False

theorem BinaryOperator.excludes_summary_iff (op : BinaryOperator) :
    op.token.ExcludesSummary ↔ ¬op.level < OperatorClass.summary.level := by
  cases op <;>
    simp [token, Token.ExcludesSummary, level, operatorClass, OperatorClass.level]

theorem Token.kind_mem_operand_kinds_iff (token : Token) :
    token.kind ∈ TokenKind.operandKinds ↔
      (∃ l, token = .literal l) ∨ token = .groupOpen ∨
        ∃ symbol, token = .operator .summary symbol := by
  cases token with
  | literal l => cases l <;> simp [kind, Literal.tokenKind, TokenKind.operandKinds]
  | _ => simp [kind, TokenKind.operandKinds]

theorem Token.kind_mem_continuation_kinds_iff (token : Token) :
    token.kind ∈ TokenKind.continuationKinds ↔
      token = .delimiter ∨ ∃ operatorClass symbol,
        operatorClass ≠ .summary ∧ token = .operator operatorClass symbol := by
  cases token with
  | literal l => cases l <;> simp [kind, Literal.tokenKind, TokenKind.continuationKinds]
  | operator operatorClass symbol =>
      cases operatorClass <;> simp [kind, TokenKind.continuationKinds]
  | _ => simp [kind, TokenKind.continuationKinds]

theorem TokenKind.exists_token (kind : TokenKind) : ∃ token : Token, token.kind = kind := by
  cases kind with
  | number => exact ⟨.literal (.number 0), rfl⟩
  | boolean => exact ⟨.literal (.boolean true), rfl⟩
  | pool => exact ⟨.literal (.pool []), rfl⟩
  | qualifier => exact ⟨.literal (.qualifier ""), rfl⟩
  | diceMap => exact ⟨.diceMap "" .empty, rfl⟩
  | operator operatorClass => exact ⟨.operator operatorClass "", rfl⟩
  | groupOpen => exact ⟨.groupOpen, rfl⟩
  | groupClose => exact ⟨.groupClose, rfl⟩
  | delimiter => exact ⟨.delimiter, rfl⟩

theorem OperatorClass.exists_binary {operatorClass : OperatorClass}
    (binaryClass : operatorClass ≠ .summary) :
    ∃ op : BinaryOperator, op.operatorClass = operatorClass := by
  cases operatorClass with
  | additive => exact ⟨.additive .add, rfl⟩
  | multiplicative => exact ⟨.multiplicative .multiply, rfl⟩
  | exponent => exact ⟨.power, rfl⟩
  | comparison => exact ⟨.comparison .less, rfl⟩
  | choice => exact ⟨.choice, rfl⟩
  | options => exact ⟨.options, rfl⟩
  | dice => exact ⟨.dice .total, rfl⟩
  | poolGeneration => exact ⟨.poolGeneration .plain, rfl⟩
  | pool => exact ⟨.pool .cap, rfl⟩
  | summary => exact absurd rfl binaryClass
  | tally => exact ⟨.tally .successes, rfl⟩
  | mapping => exact ⟨.mapping, rfl⟩

namespace Reader

def AdmitsSummary : Reader → Prop
  | wanting stack => admitsSummary stack = true
  | _ => True

theorem Behind.admits_summary_iff {token : Token} {reader : Reader}
    (behind : Behind token reader) : reader.AdmitsSummary ↔ ¬token.ExcludesSummary := by
  cases behind with
  | delimiter => exact iff_of_true trivial not_false
  | diceMap name diceMap => exact iff_of_true trivial not_false
  | literal l stack expr => exact iff_of_true trivial not_false
  | groupOpen position stack => exact iff_of_true rfl not_false
  | groupClose stack expr => exact iff_of_true trivial not_false
  | summary op position stack => exact iff_of_true rfl not_false
  | binary op position lhs stack =>
      rw [op.excludes_summary_iff, Decidable.not_not]
      exact decide_eq_true_iff

/-- The kinds that the reader announces when it refuses a token. -/
def announced : Reader → List TokenKind
  | wanting _ => TokenKind.operandKinds
  | holding stack _ =>
      if groups stack = [] then TokenKind.continuationKinds else [.groupClose]
  | _ => []

theorem summary_announced {reader : Reader} (excluded : ¬reader.AdmitsSummary) :
    TokenKind.operator .summary ∈ reader.announced := by
  cases reader with
  | wanting stack =>
      have listed : TokenKind.operator .summary ∈ TokenKind.operandKinds := by decide
      exact listed
  | _ => exact absurd trivial excluded

/-- A token that is called unexpected is refused with the announced kinds, and its own kind is
among them only if it is a summary that is not admitted. -/
def Announces (reader : Reader) (token : Token) (fault : ReadError) : Prop :=
  ∀ found expected, fault.problem = .unexpectedToken found expected →
    found = token.kind ∧ expected = reader.announced ∧
      (found ∈ expected → found = .operator .summary ∧ ¬reader.AdmitsSummary)

theorem take_operand_announces (stack : List Frame) (position : Nat) (token : Token) :
    FailsOnly ((wanting stack).Announces token) (takeOperand stack position token) := by
  unfold takeOperand
  dsimp only
  split
  · trivial
  · trivial
  · split
    · split
      · trivial
      · exact nofun
    · rename_i refused
      rintro found expected ⟨⟩
      exact ⟨rfl, rfl, fun _ => ⟨rfl, refused⟩⟩
  · exact nofun
  · rename_i notLiteral notOpen notSummary _
    rintro found expected ⟨⟩
    refine ⟨rfl, rfl, fun member => ?_⟩
    rcases (Token.kind_mem_operand_kinds_iff token).mp member with ⟨l, rfl⟩ | rfl | ⟨symbol, rfl⟩
    · exact absurd rfl (notLiteral l)
    · exact absurd rfl notOpen
    · exact absurd rfl (notSummary symbol)

/-- A token that may begin a roll is not called unexpected there, and nothing is announced. -/
theorem take_start_announces (reader : Reader) (position : Nat) (token : Token) :
    FailsOnly (reader.Announces token) (reader.takeStart position token) := by
  unfold takeStart
  split
  · trivial
  · trivial
  · rename_i notDelimiter notMap
    split
    · rename_i starts
      have fails := take_operand_announces [] position token
      cases taken : takeOperand [] position token with
      | ok next => trivial
      | error fault =>
          rw [taken] at fails
          intro found expected unexpected
          obtain ⟨own, same, onlySummary⟩ := fails found expected unexpected
          have isOperand : token.kind ∈ TokenKind.operandKinds := by
            rcases Bool.or_eq_true_iff.mp starts with listed | isMap
            · exact List.contains_iff_mem.mp listed
            · cases token with
              | diceMap name map => exact absurd rfl (notMap name map)
              | literal l => cases l <;> cases isMap
              | _ => cases isMap
          rw [own, same] at onlySummary
          exact absurd rfl (onlySummary isOperand).2
    · exact nofun

theorem announced_in_group {stack : List Frame} {opened : Nat} {outer : List Nat}
    (isOpen : groups stack = opened :: outer) (expr : Expr) :
    (holding stack expr).announced = [.groupClose] := by
  rw [announced, isOpen]
  exact if_neg nofun

theorem announced_outside_groups {stack : List Frame} (closed : groups stack = []) (expr : Expr) :
    (holding stack expr).announced = TokenKind.continuationKinds := by
  rw [announced, closed]
  exact if_pos rfl

theorem take_end_announces {token : Token} (notBinary : ∀ operatorClass symbol,
    operatorClass ≠ .summary → token ≠ .operator operatorClass symbol) (stack : List Frame)
    (expr : Expr) (position : Nat) :
    FailsOnly ((holding stack expr).Announces token) (takeEnd stack expr position token) := by
  have same := reduce_keeps_groups 0 stack expr
  have shape := reduce_zero_stack stack expr
  unfold takeEnd
  rcases reduced : reduce 0 stack expr with ⟨left, whole⟩
  rw [reduced] at same shape
  rcases shape with rfl | ⟨opened, rest, rfl⟩
  · have announces (notDelimiter : token ≠ .delimiter) : (holding stack expr).Announces token
        ⟨.unexpectedToken token.kind TokenKind.continuationKinds, .value, position⟩ := by
      rintro found expected ⟨⟩
      refine ⟨rfl, (announced_outside_groups same.symm expr).symm, fun member => ?_⟩
      rcases token.kind_mem_continuation_kinds_iff.mp member with
        isDelimiter | ⟨operatorClass, symbol, binaryClass, isOperator⟩
      · exact absurd isDelimiter notDelimiter
      · exact absurd isOperator (notBinary operatorClass symbol binaryClass)
    cases token with
    | delimiter => trivial
    | _ => exact announces nofun
  · have announces (notClose : token.kind ≠ .groupClose) : (holding stack expr).Announces token
        ⟨.unexpectedToken token.kind [.groupClose], .value, position⟩ := by
      rintro found expected ⟨⟩
      refine ⟨rfl, (announced_in_group same.symm expr).symm, fun member => ?_⟩
      exact absurd (List.mem_singleton.mp member) notClose
    cases token with
    | groupClose => trivial
    | literal l => exact announces (by cases l <;> nofun)
    | _ => exact announces nofun

theorem step_announces (reader : Reader) (position : Nat) (token : Token) :
    FailsOnly (reader.Announces token) (reader.step position token) := by
  cases reader with
  | start => exact (take_start_announces start position token).map _
  | between => exact (take_start_announces between position token).map _
  | map name diceMap =>
      cases token with
      | delimiter => trivial
      | _ => exact nofun
  | wanting stack => exact (take_operand_announces stack position token).map _
  | holding stack expr =>
      unfold step
      dsimp only
      split
      · apply take_end_announces
        rintro operatorClass symbol binaryClass ⟨⟩
        exact binaryClass rfl
      · unfold takeOperator
        split
        · trivial
        · exact nofun
      · rename_i notOperator
        apply take_end_announces
        intro operatorClass symbol _ isOperator
        exact notOperator operatorClass symbol isOperator

/-- Some token of the kind is taken. -/
def Accepts (reader : Reader) (position : Nat) (kind : TokenKind) : Prop :=
  ∃ token next roll, token.kind = kind ∧ reader.step position token = .ok (next, roll)

theorem accepts_operand_kind {kind : TokenKind} (listed : kind ∈ TokenKind.operandKinds)
    (stack : List Frame) (position : Nat) :
    (wanting stack).Accepts position kind ↔
      (kind = .operator .summary → (wanting stack).AdmitsSummary) := by
  constructor
  · rintro ⟨token, next, roll, rfl, taken⟩ isSummary
    rcases take_operand_ok_iff.mp (step_wanting_ok_iff.mp taken).1 with
      ⟨l, rfl, _⟩ | ⟨rfl, _⟩ | ⟨op, rfl, admitted, _⟩
    · cases l <;> cases isSummary
    · cases isSummary
    · exact (admits_summary_iff stack).mpr admitted
  · intro admitted
    obtain ⟨token, rfl⟩ := kind.exists_token
    rcases token.kind_mem_operand_kinds_iff.mp listed with ⟨l, rfl⟩ | rfl | ⟨symbol, rfl⟩
    · exact ⟨.literal l, _, none, rfl, rfl⟩
    · exact ⟨.groupOpen, _, none, rfl, rfl⟩
    · have tight := (admits_summary_iff stack).mp (admitted rfl)
      have taken : takeOperand stack position Summary.sum.token =
          .ok (wanting (.unary .sum position :: stack)) :=
        take_operand_ok_iff.mpr (.inr (.inr ⟨.sum, rfl, tight, rfl⟩))
      exact ⟨Summary.sum.token, _, none, rfl, step_wanting_ok_iff.mpr ⟨taken, rfl⟩⟩

theorem accepts_behind_operand {stack : List Frame} {expr : Expr} {kind : TokenKind}
    (listed : kind ∈ (holding stack expr).announced) (position : Nat) :
    (holding stack expr).Accepts position kind := by
  have same := reduce_keeps_groups 0 stack expr
  cases isOpen : groups stack with
  | cons opened outer =>
      rw [announced_in_group isOpen, List.mem_singleton] at listed
      subst listed
      obtain ⟨rest, inner, closes, _⟩ := step_group_close isOpen expr position
      exact ⟨.groupClose, _, none, rfl, closes⟩
  | nil =>
      rw [announced_outside_groups isOpen] at listed
      obtain ⟨token, rfl⟩ := kind.exists_token
      rcases token.kind_mem_continuation_kinds_iff.mp listed with
        rfl | ⟨operatorClass, symbol, binaryClass, rfl⟩
      · have empty : (reduce 0 stack expr).1 = [] := by
          rcases reduce_zero_stack stack expr with empty | ⟨opened, rest, grouped⟩
          · exact empty
          · rw [grouped, isOpen] at same
            cases same
        have ended : takeEnd stack expr position .delimiter =
            .ok (between, some (.expression (reduce 0 stack expr).2)) :=
          take_end_ok_iff.mpr (.inr ⟨empty, rfl, rfl, rfl⟩)
        exact ⟨.delimiter, _, _, rfl, step_holding_ok_iff.mpr (.inr ended)⟩
      · obtain ⟨op, rfl⟩ := OperatorClass.exists_binary binaryClass
        exact ⟨op.token, _, none, rfl, step_holding_ok_iff.mpr (.inl ⟨op, rfl, rfl, rfl⟩)⟩

/-- Of the announced kinds only that of summaries may not be accepted. -/
theorem accepts_announced_kind {reader : Reader} {kind : TokenKind}
    (listed : kind ∈ reader.announced) (position : Nat) :
    reader.Accepts position kind ↔ (kind = .operator .summary → reader.AdmitsSummary) := by
  cases reader with
  | start => cases listed
  | between => cases listed
  | map name diceMap => cases listed
  | wanting stack => exact accepts_operand_kind listed stack position
  | holding stack expr =>
      exact iff_of_true (accepts_behind_operand listed position) fun _ => trivial

theorem Takes.accepts_iff {before : List Token} {rolls : List Roll} {last : Reader}
    (takes : start.Takes 0 before rolls last) (kind : TokenKind) :
    last.Accepts before.length kind ↔
      ∃ token suffix all, token.kind = kind ∧ readRolls (before ++ token :: suffix) = .ok all := by
  constructor
  · rintro ⟨token, next, roll, own, taken⟩
    obtain ⟨suffix, clean⟩ := Reading.can_be_completed next (before.length + 1)
    have wholeClean : (Reading.goOn last before.length (token :: suffix)).fault = none := by
      rw [Reading.go_on_of_step taken]
      exact clean
    obtain ⟨all, read⟩ := read_rolls_of_completion takes wholeClean
    exact ⟨token, suffix, all, own, read⟩
  · rintro ⟨token, suffix, all, own, read⟩
    cases taken : last.step before.length token with
    | ok result => exact ⟨token, result.1, result.2, own, taken⟩
    | error fault =>
        have refuses : start.RefusesAfter 0 before token rolls fault :=
          ⟨last, takes, by rw [Nat.zero_add, taken]⟩
        cases ((refused_after_viable refuses).2.2 suffix).symm.trans read

end Reader

/-- Behind some tokens stands an operator that binds tighter than summaries do. -/
def ExcludingSummary (before : List Token) : Prop :=
  ∃ token, before.getLast? = some token ∧ token.ExcludesSummary

theorem Reader.Takes.excluding_summary_iff {before : List Token} {rolls : List Roll}
    {last : Reader} (takes : start.Takes 0 before rolls last) :
    ExcludingSummary before ↔ ¬last.AdmitsSummary := by
  by_cases empty : before = []
  · subst empty
    cases takes with
    | nothing => exact iff_of_false nofun fun excluded => excluded trivial
  · obtain ⟨earlier, token, previous, index, roll, rfl, taken⟩ := takes.last_step empty
    rw [(behind_of_step taken).admits_summary_iff, Classical.not_not, ExcludingSummary, List.getLast?_concat]
    simp

theorem Reader.Takes.announced_viable_iff {before : List Token} {rolls : List Roll} {last : Reader}
    (takes : start.Takes 0 before rolls last) {kind : TokenKind} (listed : kind ∈ last.announced) :
    (∃ token suffix all, token.kind = kind ∧ readRolls (before ++ token :: suffix) = .ok all) ↔
      ¬(kind = .operator .summary ∧ ExcludingSummary before) := by
  rw [← takes.accepts_iff, accepts_announced_kind listed, takes.excluding_summary_iff, not_and,
    Classical.not_not]

/-- Where a token is called unexpected or an operand is missing at the end, every announced kind
could have stood in that place, except for that of summaries behind an operator that binds tighter
than they do. A refused token is of an announced kind in this case only. -/
theorem announced_kinds_viable {tokens : List Token} {fault : ReadError}
    {expected : List TokenKind} (failed : readRolls tokens = .error fault)
    (announced : fault.problem = .unexpectedEnd expected ∨
      ∃ found, fault.problem = .unexpectedToken found expected) :
    let before := tokens.take fault.position
    (∀ kind ∈ expected,
      (∃ token suffix rolls, token.kind = kind ∧
        readRolls (before ++ token :: suffix) = .ok rolls) ↔
      ¬(kind = .operator .summary ∧ ExcludingSummary before)) ∧
    ∀ found, fault.problem = .unexpectedToken found expected →
      (found ∈ expected ↔ found = .operator .summary ∧ ExcludingSummary before) := by
  rcases read_rolls_error_cases failed with
    ⟨before, token, after, rolls, rfl, refuses⟩ | ⟨rolls, last, takes, finished⟩
  · obtain ⟨_, ⟨own, isRefusal⟩, _⟩ := refused_after_viable refuses
    obtain ⟨last, takes, refused⟩ := refuses
    have announces := last.step_announces (0 + before.length) token
    rw [refused] at announces
    obtain ⟨found, unexpected⟩ : ∃ found, fault.problem = .unexpectedToken found expected := by
      rcases announced with atEnd | unexpected
      · rw [atEnd] at isRefusal
        exact isRefusal.elim
      · exact unexpected
    obtain ⟨_, rfl, onlySummary⟩ := announces found expected unexpected
    rw [own, List.take_left]
    refine ⟨fun kind listed => takes.announced_viable_iff listed, fun other same => ?_⟩
    cases unexpected.symm.trans same
    rw [takes.excluding_summary_iff]
    refine ⟨onlySummary, ?_⟩
    rintro ⟨rfl, excluded⟩
    exact Reader.summary_announced excluded
  · rcases Reader.finish_error_cases finished with
      ⟨stack, rfl, rfl⟩ | ⟨stack, expr, opened, rest, rfl, _, rfl⟩
    · obtain rfl : TokenKind.operandKinds = expected := by
        rcases announced with atEnd | ⟨found, unexpected⟩
        · exact Problem.unexpectedEnd.inj atEnd
        · cases unexpected
      rw [List.take_length]
      exact ⟨fun kind listed => takes.announced_viable_iff listed, nofun⟩
    · rcases announced with atEnd | ⟨found, unexpected⟩
      · cases atEnd
      · cases unexpected

/-- Nothing but a delimiter or an operator could have stood behind a number, and all of these
could. -/
theorem announced_kinds_viable_behind_number :
    let one : Token := .literal (.number 1)
    let fault : ReadError :=
      ⟨.unexpectedToken .groupClose TokenKind.continuationKinds, .value, 1⟩
    readRolls [one, .groupClose] = .error fault ∧
      (∃ token suffix rolls, token.kind = .operator .dice ∧
        readRolls (one :: token :: suffix) = .ok rolls) ∧
      TokenKind.groupClose ∉ TokenKind.continuationKinds := by
  intro one fault
  have failed : readRolls [one, .groupClose] = .error fault := by rfl
  obtain ⟨viable, refused⟩ := announced_kinds_viable failed (.inr ⟨_, rfl⟩)
  refine ⟨failed, (viable _ (by decide)).mpr nofun, fun listed => ?_⟩
  cases ((refused _ rfl).mp listed).1

/-- Behind an operator that changes a pool a summary is refused and announced all the same. -/
theorem refused_summary_announced :
    let tokens : List Token := [.literal (.pool [1, 2]), .operator .pool "ph",
      .operator .summary "S", .literal (.pool [3])]
    readRolls tokens = .error
        ⟨.unexpectedToken (.operator .summary) TokenKind.operandKinds, .operator, 2⟩ ∧
      TokenKind.operator .summary ∈ TokenKind.operandKinds ∧
      ¬∃ token suffix rolls, token.kind = .operator .summary ∧
        readRolls (tokens.take 2 ++ token :: suffix) = .ok rolls := by
  intro tokens
  have listed : TokenKind.operator .summary ∈ TokenKind.operandKinds := by decide
  have operand : Reader.start.step 0 (.literal (.pool [1, 2])) =
      .ok (.holding [] (.literal (.pool [1, 2])), none) := rfl
  have operator : (Reader.holding [] (.literal (.pool [1, 2]))).step 1 (.operator .pool "ph") =
      .ok (.wanting [.binary (.pool .keepHigh) 1 (.literal (.pool [1, 2]))], none) := rfl
  have takes := Reader.Takes.token operand (.token operator (.nothing _ _))
  refine ⟨rfl, listed, fun viable => ?_⟩
  exact (takes.announced_viable_iff listed).mp viable ⟨rfl, _, rfl, trivial⟩

end DiceLang
