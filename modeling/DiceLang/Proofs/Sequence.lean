import DiceLang.Proofs.Relocation
import DiceLang.Proofs.StaticKinds

/-!
# Lists of tokens in sequence

Two lists with a delimiter between them are evaluated as the first list and then the second one in
the context that the first has left behind. If the first list fails, nothing of the second is
performed, and what the first has done stays done.

The results of the two lists follow one another. What a list gives is taken apart and put together
again without loss, because no single roll gives a compound result.
-/

namespace DiceLang

set_option autoImplicit false

namespace Reader

/-- Where the tokens may end, a delimiter may stand, and it hands out the same roll. -/
theorem step_delimiter_of_finish {reader : Reader} {length : Nat} {roll : Option Roll}
    (finished : reader.finish length = .ok roll) (position : Nat) :
    reader.step position .delimiter = .ok (between, roll) := by
  cases reader with
  | start =>
      cases finished
      rfl
  | between =>
      cases finished
      rfl
  | map name diceMap =>
      cases finished
      rfl
  | wanting stack => cases finished
  | holding stack expr =>
      obtain ⟨empty, rfl⟩ := finish_holding_ok_iff.mp finished
      exact step_holding_ok_iff.mpr (.inr (take_end_ok_iff.mpr (.inr ⟨empty, rfl, rfl, rfl⟩)))

theorem step_delimiter_of_finish_error {reader : Reader} {length : Nat} {fault : ReadError}
    (failed : reader.finish length = .error fault) (position : Nat) :
    ∃ other, reader.step position .delimiter = .error other := by
  rcases finish_error_cases failed with
    ⟨stack, rfl, _⟩ | ⟨stack, expr, opened, rest, rfl, grouped, _⟩
  · exact ⟨_, rfl⟩
  · cases taken : (holding stack expr).step position .delimiter with
    | error other => exact ⟨other, rfl⟩
    | ok result =>
        rcases step_holding_ok_iff.mp taken with ⟨op, isOperator, _⟩ | ended
        · cases isOperator
        · rcases take_end_ok_iff.mp ended with ⟨_, _, _, isClosing, _⟩ | ⟨empty, _⟩
          · cases isClosing
          · cases empty.symm.trans grouped

end Reader

namespace Reading

theorem of_tokens_append_of_clean {first : List Token} (clean : (ofTokens first).fault = none)
    (second : List Token) :
    ofTokens (first ++ .delimiter :: second) =
      (goOn .between (first.length + 1) second).precededBy (ofTokens first).rolls := by
  rcases of_tokens_cases first with ⟨rolls, last, roll, takes, finished, alone⟩ |
    ⟨rolls, last, fault, _, _, alone⟩ | ⟨before, token, after, rolls, fault, _, _, alone⟩
  · rw [alone, ofTokens, go_on_append takes, Nat.zero_add,
      go_on_of_step (Reader.step_delimiter_of_finish finished _)]
    simp [push, precededBy]
  · rw [alone] at clean
    cases clean
  · rw [alone] at clean
    cases clean

/-- A list with a fault has one in front of the delimiter or at it, behind the same rolls. -/
theorem of_tokens_append_of_fault {first : List Token} {fault : ReadError}
    (found : (ofTokens first).fault = some fault) (second : List Token) :
    ∃ other, ofTokens (first ++ .delimiter :: second) = ⟨(ofTokens first).rolls, some other⟩ := by
  rcases of_tokens_cases first with ⟨rolls, last, roll, _, _, alone⟩ |
    ⟨rolls, last, missing, takes, finished, alone⟩ |
    ⟨before, token, after, rolls, refusal, rfl, refuses, alone⟩
  · rw [alone] at found
    cases found
  · obtain ⟨other, refused⟩ := Reader.step_delimiter_of_finish_error finished first.length
    have cut : Reader.start.RefusesAfter 0 first .delimiter rolls other :=
      ⟨last, takes, by rw [Nat.zero_add, refused]⟩
    rw [alone]
    exact ⟨other, go_on_refused cut second⟩
  · rw [alone, List.append_assoc]
    exact ⟨refusal, go_on_refused refuses (after ++ .delimiter :: second)⟩

end Reading

/-- The error as it is reported behind `offset` earlier tokens. Only at the first token of all is
a bad start found before anything has started. -/
def ReadError.behind (offset : Nat) (error : ReadError) : ReadError where
  problem := error.problem
  phase := if error.problem = .badStart ∧ error.position = 0 then .started else error.phase
  position := error.position + offset

theorem ReadError.behind_of_late {offset : Nat} {error : ReadError}
    (late : error.problem = .badStart → 0 < error.position) :
    error.behind offset = error.relocate (· + offset) := by
  have notFirst : ¬(error.problem = .badStart ∧ error.position = 0) := by
    rintro ⟨isBadStart, isFirst⟩
    have behindFirst := late isBadStart
    omega
  rw [behind, if_neg notFirst]
  rfl

theorem ReadError.behind_moves_failures (offset : Nat) :
    MovesFailures (· + offset) (ReadError.behind offset) :=
  fun _ _ => behind_of_late nofun

theorem Reader.step_between (token : Token) :
    between.step 0 token = (start.step 0 token).mapError (ReadError.behind 0) := by
  cases token with
  | literal l => cases l <;> rfl
  | operator operatorClass symbol =>
      cases operatorClass with
      | summary =>
          simp only [step, takeStart, takeOperand]
          cases Summary.lookup? symbol with
          | some op => rfl
          | none => rfl
      | _ => rfl
  | _ => rfl

namespace Reading

theorem bad_start_position {reader : Reader} {position : Nat} {tokens : List Token}
    {fault : ReadError} (found : (goOn reader position tokens).fault = some fault)
    (isBadStart : fault.problem = .badStart) : position ≤ fault.position := by
  rcases go_on_fault_cases found with ⟨index, later, own, _⟩ | ⟨last, length, finished⟩
  · rw [own]
    exact later
  · rcases Reader.finish_error_cases finished with
      ⟨stack, _, rfl⟩ | ⟨stack, expr, opened, rest, _, _, rfl⟩
    · cases isBadStart
    · cases isBadStart

theorem go_on_between_zero (tokens : List Token) :
    goOn .between 0 tokens =
      ⟨(ofTokens tokens).rolls, (ofTokens tokens).fault.map (ReadError.behind 0)⟩ := by
  cases tokens with
  | nil => rfl
  | cons token rest =>
      rw [ofTokens, goOn, goOn, Reader.step_between]
      cases Reader.start.step 0 token with
      | error fault => rfl
      | ok result =>
          obtain ⟨next, roll⟩ := result
          change (goOn next 1 rest).push roll = ⟨_, (goOn next 1 rest).fault.map _⟩
          -- Behind the first token no fault has the position zero, so none is changed.
          cases found : (goOn next 1 rest).fault with
          | none => simp [push, found]
          | some fault =>
              have late : fault.problem = .badStart → 0 < fault.position :=
                bad_start_position found
              simp [push, found, ReadError.behind_of_late late, ReadError.relocate]

theorem go_on_between (offset : Nat) (tokens : List Token) :
    goOn .between offset tokens =
      ⟨(ofTokens tokens).rolls.map (Roll.relocate (· + offset)),
        (ofTokens tokens).fault.map (ReadError.behind offset)⟩ := by
  have moved := go_on_relocate offset .between 0 tokens
  rw [Nat.zero_add, go_on_between_zero] at moved
  refine moved.trans ?_
  simp only [relocate, Option.map_map]
  rfl

end Reading

namespace Context

open Outcome (Translated)

variable {σ : Type} [Roller σ]

omit [Roller σ] in
theorem conclude_translated (translate : ReadError → ReadError) (fault : Option ReadError)
    (values : List Value) (context : Context σ) :
    Translated translate (conclude fault values context)
      (conclude (fault.map translate) values context) := by
  cases fault with
  | none => exact ⟨rfl, rfl⟩
  | some fault => exact ⟨rfl, rfl⟩

theorem perform_rolls_append (first second : List Roll) (index : Nat) (context : Context σ) :
    performRolls (first ++ second) index context =
      (performRolls first index context).andThen fun values context =>
        (performRolls second (index + values.length) context).map (values ++ ·) := by
  induction first generalizing index context with
  | nil => simp [performRolls, Outcome.andThen]
  | cons roll rest ih =>
      cases roll with
      | diceMap name map =>
          rw [List.cons_append, performRolls, performRolls, ih, Outcome.after_and_then]
      | expression expr =>
          rw [List.cons_append, perform_expression, perform_expression, Outcome.and_then_assoc]
          apply Outcome.and_then_congr
          intro value _
          rw [ih, Outcome.map_and_then, ← Outcome.after_and_then, Outcome.and_then_map]
          have counted (values : List Value) :
              index + 1 + values.length = index + (value :: values).length := by
            rw [List.length_cons]
            omega
          simp only [Outcome.map_map, counted, List.cons_append]

theorem perform_preceded (context : Context σ) (reading : Reading) (rolls : List Roll) :
    context.perform (reading.precededBy rolls) =
      (performRolls rolls 0 context).andThen fun values context =>
        ((performRolls reading.rolls values.length context).andThen
          (conclude reading.fault)).map (values ++ ·) := by
  rw [perform_and_then]
  dsimp only [Reading.precededBy]
  rw [perform_rolls_append, Outcome.and_then_assoc]
  apply Outcome.and_then_congr
  intro values _
  rw [Outcome.and_then_map, Outcome.map_and_then, Nat.zero_add]
  apply Outcome.and_then_congr
  intro more _
  cases reading.fault with
  | none => rfl
  | some fault => rfl

theorem perform_fails_of_fault (context : Context σ) {reading : Reading} {fault : ReadError}
    (found : reading.fault = some fault) :
    (∃ error, (context.perform reading).result = .error error) ∧
      (context.perform reading).context = (performRolls reading.rolls 0 context).context := by
  rw [perform_of_fault _ found]
  cases performed : (performRolls reading.rolls 0 context).result with
  | ok values =>
      rw [Outcome.and_then_of_ok performed]
      exact ⟨⟨fault, rfl⟩, rfl⟩
  | error error =>
      rw [Outcome.and_then_of_error performed]
      exact ⟨⟨error, rfl⟩, rfl⟩

theorem perform_append_ok {first : List Token} {context : Context σ} {values : List Value}
    (performed : (context.perform (.ofTokens first)).result = .ok values) (second : List Token) :
    Translated (ReadError.behind (first.length + 1))
      (((context.perform (.ofTokens first)).context.perform (.ofTokens second)).map (values ++ ·))
      (context.perform (.ofTokens (first ++ .delimiter :: second))) := by
  cases found : (Reading.ofTokens first).fault with
  | some fault =>
      obtain ⟨⟨error, failed⟩, _⟩ := context.perform_fails_of_fault found
      cases performed.symm.trans failed
  | none =>
      rw [perform_of_clean _ found] at performed ⊢
      rw [Reading.of_tokens_append_of_clean found, perform_preceded, Reading.go_on_between,
        Outcome.and_then_of_ok performed, perform_and_then]
      -- The log of the whole numbers the later results on from the earlier ones; nothing else
      -- depends on where the numbering starts.
      have rolled := perform_rolls_relocate (ReadError.behind_moves_failures (first.length + 1))
        (Reading.ofTokens second).rolls 0 values.length
        (performRolls (Reading.ofTokens first).rolls 0 context).context
      have concluded := rolled.andThen (conclude_translated _ (Reading.ofTokens second).fault)
      exact (concluded.map _).after [] _

theorem perform_append_error {first : List Token} {context : Context σ} {error : ReadError}
    (failed : (context.perform (.ofTokens first)).result = .error error) (second : List Token) :
    (∃ other,
      (context.perform (.ofTokens (first ++ .delimiter :: second))).result = .error other) ∧
    (context.perform (.ofTokens (first ++ .delimiter :: second))).context =
      (context.perform (.ofTokens first)).context := by
  cases found : (Reading.ofTokens first).fault with
  | none =>
      rw [perform_of_clean _ found] at failed ⊢
      rw [Reading.of_tokens_append_of_clean found, perform_preceded,
        Outcome.and_then_of_error failed]
      exact ⟨⟨error, rfl⟩, rfl⟩
  | some fault =>
      obtain ⟨other, whole⟩ := Reading.of_tokens_append_of_fault found second
      have here := context.perform_fails_of_fault found
      rw [whole, here.2]
      exact context.perform_fails_of_fault rfl

end Context

namespace Value

/-- The single results in what a list of rolls gives. -/
def flat : Option Value → List Value
  | none => []
  | some (compound parts) => parts
  | some value => [value]

/-- What is taken together can be taken apart if nothing in it was taken together before. -/
theorem flat_gather {values : List Value} (single : ∀ value ∈ values, value.kind ≠ .compound) :
    flat (gather values) = values := by
  match values with
  | [] => rfl
  | [value] =>
      cases value with
      | compound parts => exact absurd rfl (single _ (List.mem_singleton_self _))
      | _ => rfl
  | _ :: _ :: _ => rfl

theorem gather_compound_length {values parts : List Value}
    (together : gather values = some (compound parts))
    (single : ∀ value ∈ values, value.kind ≠ .compound) : parts = values ∧ 2 ≤ parts.length := by
  match values with
  | [] => cases together
  | [value] =>
      cases together
      exact absurd rfl (single _ (List.mem_singleton_self _))
  | _ :: _ :: _ =>
      cases together
      simp

end Value

namespace Context

variable {σ : Type} [Roller σ]

theorem perform_rolls_single {rolls : List Roll} {index : Nat} {context : Context σ}
    {values : List Value} (performed : (performRolls rolls index context).result = .ok values) :
    ∀ value ∈ values, value.kind ≠ .compound := by
  induction rolls generalizing index context values with
  | nil =>
      cases performed
      nofun
  | cons roll rest ih =>
      cases roll with
      | diceMap name map => exact ih performed
      | expression expr =>
          rw [perform_expression] at performed
          cases evaluated : ((expr.eval context.maps).run context).result with
          | error error =>
              rw [Outcome.and_then_of_error evaluated] at performed
              cases performed
          | ok value =>
              have known : expr.staticKind = some value.kind := by
                have ends := (expr.eval_kind context.maps).run context
                rw [evaluated] at ends
                exact ends
              rw [Outcome.and_then_of_ok evaluated] at performed
              obtain ⟨others, later, rfl⟩ := Outcome.map_ok_iff.mp performed
              rw [List.forall_mem_cons]
              refine ⟨?_, ih later⟩
              intro isCompound
              rw [isCompound] at known
              exact expr.static_kind_ne_compound known

theorem perform_single {context : Context σ} {reading : Reading} {values : List Value}
    (performed : (context.perform reading).result = .ok values) :
    ∀ value ∈ values, value.kind ≠ .compound := by
  cases found : reading.fault with
  | none =>
      rw [perform_of_clean _ found] at performed
      exact perform_rolls_single performed
  | some fault =>
      obtain ⟨⟨error, failed⟩, _⟩ := context.perform_fails_of_fault found
      cases performed.symm.trans failed

/-- Goes on with further tokens, of which there may be none, and with the count of rolled dice. -/
def resume (context : Context σ) (tokens : List Token) : Outcome σ ReadError (Option Value) :=
  (context.perform (.ofTokens tokens)).map Value.gather

theorem resume_append_ok_iff {first : List Token} {context : Context σ} {values : List Value}
    (performed : (context.perform (.ofTokens first)).result = .ok values) {second : List Token}
    {all : Option Value} :
    (context.resume (first ++ .delimiter :: second)).result = .ok all ↔
      ∃ more, ((context.perform (.ofTokens first)).context.perform (.ofTokens second)).result =
        .ok more ∧ Value.gather (values ++ more) = all := by
  have continued := perform_append_ok performed second
  simp only [resume, Outcome.map_ok_iff, continued.ok_iff]
  constructor
  · rintro ⟨_, ⟨more, later, rfl⟩, gathered⟩
    exact ⟨more, later, gathered⟩
  · rintro ⟨more, later, gathered⟩
    exact ⟨_, ⟨more, later, rfl⟩, gathered⟩

theorem flat_resumed {first second : List Token} {context : Context σ} {values : List Value}
    {all rest : Option Value}
    (performed : (context.perform (.ofTokens first)).result = .ok values)
    (whole : (context.resume (first ++ .delimiter :: second)).result = .ok all)
    (back : ((context.perform (.ofTokens first)).context.resume second).result = .ok rest) :
    Value.flat all = Value.flat (Value.gather values) ++ Value.flat rest := by
  obtain ⟨more, later, rfl⟩ := Outcome.map_ok_iff.mp back
  obtain ⟨others, same, rfl⟩ := (resume_append_ok_iff performed).mp whole
  cases later.symm.trans same
  have firstSingle := perform_single performed
  have restSingle := perform_single later
  have allSingle := List.forall_mem_append.mpr ⟨firstSingle, restSingle⟩
  rw [Value.flat_gather allSingle, Value.flat_gather firstSingle, Value.flat_gather restSingle]

theorem evaluate_gathers {context : Context σ} {tokens : List Token} {given : Option Value}
    (evaluated : (context.evaluate tokens).result = .ok given) :
    ∃ values : List Value, (∀ value ∈ values, value.kind ≠ .compound) ∧
      given = Value.gather values := by
  by_cases empty : tokens = []
  · rw [empty] at evaluated
    cases evaluated
  · rw [evaluate_of_nonempty _ empty] at evaluated
    obtain ⟨values, performed, rfl⟩ := Outcome.map_ok_iff.mp evaluated
    exact ⟨values, perform_single performed, rfl⟩

/-- Two lists with a delimiter between them are evaluated one after the other. If the first one
fails, nothing of the second is performed and the context is as the first one leaves it. Else the
whole ends as the second list ends when it is evaluated from there: the results of both follow one
another, and errors of the second are reported at their place in the whole. Results can be told
apart, for what is taken together has two parts or more and none of them is taken together
itself. -/
theorem evaluated_in_sequence (context : Context σ) {first : List Token} (nonempty : first ≠ [])
    (second : List Token) :
    let front := context.evaluate first
    let back := front.context.resume second
    let whole := context.evaluate (first ++ .delimiter :: second)
    (∀ error, front.result = .error error →
      (∃ other, whole.result = .error other) ∧ whole.context = front.context) ∧
    (∀ given, front.result = .ok given →
      whole.context = back.context ∧
      ((∃ all, whole.result = .ok all) ↔ ∃ rest, back.result = .ok rest) ∧
      (∀ all rest, whole.result = .ok all → back.result = .ok rest →
        Value.flat all = Value.flat given ++ Value.flat rest) ∧
      ∀ error, back.result = .error error →
        whole.result = .error (error.behind (first.length + 1))) ∧
    ∀ tokens given, (context.evaluate tokens).result = .ok given →
      Value.gather (Value.flat given) = given ∧
      ∀ parts, given = some (.compound parts) →
        2 ≤ parts.length ∧ ∀ part ∈ parts, part.kind ≠ .compound := by
  intro front back whole
  have isFront : front = context.resetRolls.resume first := context.evaluate_of_nonempty nonempty
  have isWhole : whole = context.resetRolls.resume (first ++ .delimiter :: second) :=
    context.evaluate_of_nonempty (by simp)
  refine ⟨?_, ?_, ?_⟩
  · intro error failed
    rw [isFront] at failed
    obtain ⟨⟨other, later⟩, same⟩ := perform_append_error (Outcome.map_error_iff.mp failed) second
    rw [isWhole, isFront]
    exact ⟨⟨other, Outcome.map_error_iff.mpr later⟩, same⟩
  · intro given evaluated
    rw [isFront] at evaluated
    obtain ⟨values, performed, rfl⟩ := Outcome.map_ok_iff.mp evaluated
    have continued := perform_append_ok performed second
    have isBack : back =
        (context.resetRolls.perform (.ofTokens first)).context.resume second :=
      congrArg (fun outcome => outcome.context.resume second) isFront
    rw [isWhole, isBack]
    refine ⟨continued.context, ⟨?_, ?_⟩, fun _ _ => flat_resumed performed, ?_⟩
    · rintro ⟨all, ended⟩
      obtain ⟨more, later, _⟩ := (resume_append_ok_iff performed).mp ended
      exact ⟨_, Outcome.map_ok_iff.mpr ⟨more, later, rfl⟩⟩
    · rintro ⟨rest, ended⟩
      obtain ⟨more, later, _⟩ := Outcome.map_ok_iff.mp ended
      exact ⟨_, (resume_append_ok_iff performed).mpr ⟨more, later, rfl⟩⟩
    · intro error failed
      have later := Outcome.map_error_iff.mp failed
      exact Outcome.map_error_iff.mpr (continued.error (Outcome.map_error_iff.mpr later))
  · intro tokens given evaluated
    obtain ⟨values, single, rfl⟩ := evaluate_gathers evaluated
    refine ⟨by rw [Value.flat_gather single], fun parts together => ?_⟩
    obtain ⟨rfl, several⟩ := Value.gather_compound_length together single
    exact ⟨several, single⟩

/-- Behind a roll of one die, a token that cannot begin a roll: at once, and after another die. -/
theorem evaluated_in_sequence_die_and_bad_start :
    let roll : List Token :=
      [.literal (.number 1), .operator .dice "d", .literal (.number 6)]
    let soon : List Token := [.groupClose]
    let late : List Token := roll ++ [.delimiter, .groupClose]
    let context : Context Replay := .new (.ofArray #[3, 5]) (some 2)
    let front := context.evaluate roll
    roll ≠ [] ∧ front.result = .ok (some (.number 3)) ∧
      ((front.context.resume soon).result = .error ⟨.badStart, .beforeStart, 0⟩ ∧
        (context.evaluate (roll ++ .delimiter :: soon)).result =
          .error ⟨.badStart, .started, 4⟩) ∧
      (front.context.resume late).result = .error ⟨.badStart, .started, 4⟩ ∧
        (context.evaluate (roll ++ .delimiter :: late)).result =
          .error ⟨.badStart, .started, 8⟩ ∧
        (context.evaluate (roll ++ .delimiter :: late)).context.rolls = 2 := by
  intro roll soon late context front
  have nonempty : roll ≠ [] := List.cons_ne_nil _ _
  have rolled : front.result = .ok (some (.number 3)) := by
    simp only [front, context, roll]
    rfl
  have stopsSoon : (front.context.resume soon).result = .error ⟨.badStart, .beforeStart, 0⟩ := by
    simp only [front, context, roll, soon]
    rfl
  have stopsLate : (front.context.resume late).result = .error ⟨.badStart, .started, 4⟩ := by
    simp only [front, context, roll, late]
    rfl
  have counted : (front.context.resume late).context.rolls = 2 := by decide +kernel
  obtain ⟨_, onwardSoon, _⟩ := evaluated_in_sequence context nonempty soon
  obtain ⟨_, onwardLate, _⟩ := evaluated_in_sequence context nonempty late
  obtain ⟨_, _, _, failedSoon⟩ := onwardSoon _ rolled
  obtain ⟨same, _, _, failedLate⟩ := onwardLate _ rolled
  refine ⟨nonempty, rolled, ⟨stopsSoon, failedSoon _ stopsSoon⟩, stopsLate,
    failedLate _ stopsLate, ?_⟩
  rw [same]
  exact counted

end Context

end DiceLang
