import DiceLang.Proofs.FailingOperator
import Mathlib.Data.Finset.Card

/-!
# The last registration of a name counts

Dice maps are registered on request and by dice maps among the tokens that are evaluated. How far a
list of tokens gets is told from its rolls alone: up to the first expression that fails, and else to
the fault in its structure or to its end. The list registers the dice maps on the way there and
reports what stopped it. Nothing else touches the table: after any sequence of requests a name has
the map that was registered last under it.
-/

namespace DiceLang

set_option autoImplicit false

namespace DiceMaps

def registerAll (maps : DiceMaps) (entries : List (String × DiceMap)) : DiceMaps :=
  entries.foldl (fun maps entry => maps.register entry.1 entry.2) maps

theorem registerAll_append (maps : DiceMaps) (first second : List (String × DiceMap)) :
    maps.registerAll (first ++ second) = (maps.registerAll first).registerAll second := by
  simp [registerAll]

theorem get?_registerAll (maps : DiceMaps) (entries : List (String × DiceMap)) (name : String) :
    (maps.registerAll entries).get? name = (entries.reverse.lookup name).or (maps.get? name) := by
  induction entries generalizing maps with
  | nil => rfl
  | cons entry rest ih =>
      obtain ⟨own, map⟩ := entry
      have later := ih (maps.register own map)
      rw [get?_register] at later
      rw [List.reverse_cons, List.lookup_append, Option.or_assoc]
      refine later.trans (congrArg _ ?_)
      by_cases same : name = own
      · rw [if_pos same, same, List.lookup_cons_self, Option.some_or]
      · have other : (name == own) = false := beq_eq_false_iff_ne.mpr same
        rw [if_neg same, List.lookup_cons, other, List.lookup_nil, Option.none_or]

def names (maps : DiceMaps) : Finset String :=
  (maps.entries.map Prod.fst).toFinset

theorem size_eq_card_names (maps : DiceMaps) : maps.size = maps.names.card := by
  rw [names, List.toFinset_card_of_nodup maps.distinct, List.length_map, size]

theorem names_register (maps : DiceMaps) (name : String) (map : DiceMap) :
    (maps.register name map).names = insert name maps.names := by
  ext other
  simp only [names, register, List.map_cons, List.toFinset_cons, Finset.mem_insert,
    List.mem_toFinset, List.mem_map, List.mem_filter, decide_eq_true_eq]
  by_cases same : other = name
  · simp [same]
  · constructor
    · rintro (rfl | ⟨entry, ⟨held, _⟩, rfl⟩)
      · exact .inl rfl
      · exact .inr ⟨entry, held, rfl⟩
    · rintro (rfl | ⟨entry, held, rfl⟩)
      · exact .inl rfl
      · exact .inr ⟨entry, ⟨held, same⟩, rfl⟩

theorem names_registerAll (maps : DiceMaps) (entries : List (String × DiceMap)) :
    (maps.registerAll entries).names = (entries.map Prod.fst).toFinset ∪ maps.names := by
  induction entries generalizing maps with
  | nil => simp [registerAll]
  | cons entry rest ih =>
      have later := ih (maps.register entry.1 entry.2)
      rw [names_register] at later
      refine later.trans ?_
      ext name
      simp

end DiceMaps

/-- What a token asks to be registered. -/
def Token.registration? : Token → Option (String × DiceMap)
  | diceMap name map => some (name, map)
  | _ => none

def Roll.registration? : Roll → Option (String × DiceMap)
  | diceMap name map => some (name, map)
  | expression _ => none

theorem Expr.tokens_register_nothing (expr : Expr) :
    expr.tokens.filterMap Token.registration? = [] := by
  induction expr with
  | literal l => rfl
  | group inner ih =>
      rw [tokens, List.cons_append, List.filterMap_cons_none rfl, List.filterMap_append, ih]
      rfl
  | unary op position operand ih => rw [tokens, List.filterMap_cons_none rfl, ih]
  | binary op position lhs rhs lhsIh rhsIh =>
      rw [tokens, List.filterMap_append, List.filterMap_cons_none rfl, lhsIh, rhsIh]
      rfl

theorem Roll.tokens_registrations (roll : Roll) :
    roll.tokens.filterMap Token.registration? = roll.registration?.toList := by
  cases roll with
  | diceMap name map => rfl
  | expression expr => exact expr.tokens_register_nothing

theorem Writing.registrations {start : Nat} {tokens : List Token} {rolls : List Roll}
    (writing : Writing start tokens rolls) :
    tokens.filterMap Token.registration? = rolls.filterMap Roll.registration? := by
  have first (roll : Roll) (rolls : List Roll) :
      (roll :: rolls).filterMap Roll.registration? =
        roll.registration?.toList ++ rolls.filterMap Roll.registration? := by
    cases roll with
    | diceMap name map => rfl
    | expression expr => rfl
  induction writing with
  | nothing start => rfl
  | delimiter rest ih => exact ih
  | @last start roll placed => simp [first, roll.tokens_registrations]
  | @roll start roll tokens rolls placed rest ih =>
      rw [List.filterMap_append, roll.tokens_registrations, first, ← ih]
      rfl

/-- How far a list of rolls gets: the rolls in front of the first one that fails, and its error. -/
structure Progress where
  completed : List Roll
  failure : Option ReadError
  deriving DecidableEq

def Progress.behind (roll : Roll) (progress : Progress) : Progress :=
  { progress with completed := roll :: progress.completed }

namespace Context

variable {σ : Type} [Roller σ]

/-- Each dice map serves the rolls behind it, and an expression that does not fail leaves its
context to them. -/
def progress : Context σ → List Roll → Progress
  | _, [] => ⟨[], none⟩
  | context, .diceMap name map :: rest =>
      (progress { context with maps := context.maps.register name map } rest).behind
        (.diceMap name map)
  | context, .expression expr :: rest =>
      let outcome := (expr.eval context.maps).run context
      match outcome.result with
      | .ok _ => (progress outcome.context rest).behind (.expression expr)
      | .error error => ⟨[], some error⟩

theorem progress_of_ok {context : Context σ} {expr : Expr} {value : Value}
    (evaluated : ((expr.eval context.maps).run context).result = .ok value) (rest : List Roll) :
    context.progress (.expression expr :: rest) =
      (((expr.eval context.maps).run context).context.progress rest).behind (.expression expr) := by
  rw [progress, evaluated]

theorem progress_of_error {context : Context σ} {expr : Expr} {error : ReadError}
    (failed : ((expr.eval context.maps).run context).result = .error error) (rest : List Roll) :
    context.progress (.expression expr :: rest) = ⟨[], some error⟩ := by
  rw [progress, failed]

theorem perform_rolls_progress (rolls : List Roll) (index : Nat) (context : Context σ) :
    (∀ error, (performRolls rolls index context).result = .error error ↔
      (context.progress rolls).failure = some error) ∧
    (performRolls rolls index context).context.maps =
      context.maps.registerAll
        ((context.progress rolls).completed.filterMap Roll.registration?) := by
  induction rolls generalizing index context with
  | nil => exact ⟨fun error => ⟨nofun, nofun⟩, rfl⟩
  | cons roll rest ih =>
      cases roll with
      | diceMap name map => exact ih index { context with maps := context.maps.register name map }
      | expression expr =>
          have unchanged := (expr.eval context.maps).run_maps context
          rw [perform_expression]
          cases evaluated : ((expr.eval context.maps).run context).result with
          | error error =>
              rw [Outcome.and_then_of_error evaluated, progress_of_error evaluated]
              exact ⟨fun other => by simp, unchanged⟩
          | ok value =>
              obtain ⟨fails, registers⟩ :=
                ih (index + 1) ((expr.eval context.maps).run context).context
              rw [Outcome.and_then_of_ok evaluated, progress_of_ok evaluated]
              rw [unchanged] at registers
              exact ⟨fun error => Outcome.map_error_iff.trans (fails error), registers⟩

theorem completed_of_success {context : Context σ} {rolls : List Roll}
    (success : (context.progress rolls).failure = none) :
    (context.progress rolls).completed = rolls := by
  induction rolls generalizing context with
  | nil => rfl
  | cons roll rest ih =>
      cases roll with
      | diceMap name map => exact congrArg _ (ih success)
      | expression expr =>
          cases evaluated : ((expr.eval context.maps).run context).result with
          | error error =>
              rw [progress_of_error evaluated] at success
              cases success
          | ok value =>
              rw [progress_of_ok evaluated] at success ⊢
              exact congrArg _ (ih success)

theorem completed_of_failure {context : Context σ} {rolls : List Roll} {error : ReadError}
    (failure : (context.progress rolls).failure = some error) :
    ∃ expr after, rolls = (context.progress rolls).completed ++ .expression expr :: after ∧
      expr.Raises error := by
  induction rolls generalizing context with
  | nil => cases failure
  | cons roll rest ih =>
      cases roll with
      | diceMap name map =>
          obtain ⟨expr, after, split, raised⟩ := ih failure
          exact ⟨expr, after, congrArg _ split, raised⟩
      | expression expr =>
          cases evaluated : ((expr.eval context.maps).run context).result with
          | error other =>
              rw [progress_of_error evaluated] at failure ⊢
              cases failure
              exact ⟨expr, rest, rfl, Expr.raises_of_run_error evaluated⟩
          | ok value =>
              rw [progress_of_ok evaluated] at failure ⊢
              obtain ⟨failing, after, split, raised⟩ := ih failure
              exact ⟨failing, after, congrArg _ split, raised⟩

theorem registrations_before_error {tokens : List Token} {before after : List Roll} {expr : Expr}
    {error : ReadError}
    (split : (Reading.ofTokens tokens).rolls = before ++ .expression expr :: after)
    (raised : expr.Raises error) :
    (tokensBeforeRoll error.position tokens).filterMap Token.registration? =
      before.filterMap Roll.registration? := by
  obtain ⟨written, later, whole, writing⟩ : ∃ written later, tokens = written ++ later ∧
      Writing 0 written (before ++ .expression expr :: after) := by
    rw [← split]
    cases found : (Reading.ofTokens tokens).fault with
    | none =>
        have read : readRolls tokens = .ok (Reading.ofTokens tokens).rolls := by
          rw [readRolls, found]
        exact ⟨tokens, [], (List.append_nil _).symm, (writing_of_read_rolls read).1⟩
    | some fault =>
        obtain ⟨later, whole⟩ := tokens_before_roll_prefix fault.position tokens
        exact ⟨_, later, whole.symm, (Reading.of_tokens_interrupted found).1⟩
  -- The error lies among the tokens of its expression, and none of them is a delimiter.
  obtain ⟨front, rest, rfl, atStart, earlier, placed⟩ := writing.cut
  obtain ⟨lower, upper⟩ := Expr.raises_within placed raised
  rw [Nat.zero_add] at lower upper
  have within : (expr.tokens ++ (rest ++ later)).take (error.position - front.length) =
      expr.tokens.take (error.position - front.length) := by
    rw [List.take_append_of_le_length (by omega)]
  have sameRoll : Token.delimiter ∉
      (expr.tokens ++ (rest ++ later)).take (error.position - front.length) := by
    rw [within]
    exact fun member => expr.delimiter_not_mem_tokens (List.mem_of_mem_take member)
  have cut : tokensBeforeRoll error.position tokens = front := by
    rw [whole, List.append_assoc, List.append_assoc]
    exact atStart.tokens_before_roll lower sameRoll
  rw [cut, earlier.registrations]

/-- The first error of a list of tokens: the first failure among its rolls, and else the fault in
its structure, which lies behind all of them. -/
def firstError (context : Context σ) (tokens : List Token) : Option ReadError :=
  if tokens = [] then some ⟨.emptyStream, .beforeStart, 0⟩
  else (context.resetRolls.progress (Reading.ofTokens tokens).rolls).failure.or
    (Reading.ofTokens tokens).fault

/-- The registrations that a request makes. A list of tokens registers the dice maps among the rolls
in front of its first error. -/
def registered (context : Context σ) : Request → List (String × DiceMap)
  | .evaluate tokens =>
      (context.resetRolls.progress (Reading.ofTokens tokens).rolls).completed.filterMap
        Roll.registration?
  | .register name map => [(name, map)]
  | .setLimit _ => []

/-- The registrations that a sequence of requests makes, in order. -/
def allRegistered (context : Context σ) : List Request → List (String × DiceMap)
  | [] => []
  | request :: rest => context.registered request ++ (context.serve request).allRegistered rest

theorem evaluate_error_iff (context : Context σ) (tokens : List Token) (error : ReadError) :
    (context.evaluate tokens).result = .error error ↔ context.firstError tokens = some error := by
  by_cases empty : tokens = []
  · rw [firstError, if_pos empty, empty]
    exact ⟨fun failed => congrArg some (Except.error.inj failed),
      fun first => congrArg Except.error (Option.some.inj first)⟩
  · obtain ⟨fails, _⟩ :=
      perform_rolls_progress (Reading.ofTokens tokens).rolls 0 context.resetRolls
    rw [evaluate_of_nonempty _ empty, Outcome.map_error_iff, perform_and_then, firstError,
      if_neg empty]
    cases performed :
        (performRolls (Reading.ofTokens tokens).rolls 0 context.resetRolls).result with
    | error other =>
        rw [Outcome.and_then_of_error performed, (fails other).mp performed]
        simp
    | ok values =>
        have success : (context.resetRolls.progress (Reading.ofTokens tokens).rolls).failure =
            none := by
          apply Option.eq_none_iff_forall_ne_some.mpr
          intro other failure
          cases performed.symm.trans ((fails other).mpr failure)
        rw [Outcome.and_then_of_ok performed, success, Option.none_or]
        cases (Reading.ofTokens tokens).fault with
        | none => exact ⟨nofun, nofun⟩
        | some fault => simp [conclude, Outcome.after]

theorem perform_context (context : Context σ) (reading : Reading) :
    (context.perform reading).context = (performRolls reading.rolls 0 context).context := by
  unfold perform
  split <;> rfl

theorem evaluate_maps (context : Context σ) (tokens : List Token) :
    (context.evaluate tokens).context.maps =
      context.maps.registerAll (context.registered (.evaluate tokens)) := by
  by_cases empty : tokens = []
  · rw [empty]
    rfl
  · obtain ⟨_, registers⟩ :=
      perform_rolls_progress (Reading.ofTokens tokens).rolls 0 context.resetRolls
    rw [evaluate_of_nonempty _ empty]
    change (context.resetRolls.perform (.ofTokens tokens)).context.maps = _
    rw [perform_context]
    exact registers

/-- Told from the tokens, the registrations of a list are the dice maps in front of the roll with
the first error, or all of them. -/
theorem registered_tokens (context : Context σ) (tokens : List Token) :
    context.registered (.evaluate tokens) =
      match context.firstError tokens with
      | none => tokens.filterMap Token.registration?
      | some error => (tokensBeforeRoll error.position tokens).filterMap Token.registration? := by
  by_cases empty : tokens = []
  · rw [firstError, if_pos empty, empty]
    rfl
  · rw [firstError, if_neg empty, registered]
    cases failure : (context.resetRolls.progress (Reading.ofTokens tokens).rolls).failure with
    | some error =>
        obtain ⟨expr, after, split, raised⟩ := completed_of_failure failure
        exact (registrations_before_error split raised).symm
    | none =>
        rw [completed_of_success failure, Option.none_or]
        cases found : (Reading.ofTokens tokens).fault with
        | some fault => exact (Reading.of_tokens_interrupted found).1.registrations.symm
        | none =>
            have read : readRolls tokens = .ok (Reading.ofTokens tokens).rolls := by
              rw [readRolls, found]
            exact (writing_of_read_rolls read).1.registrations.symm

theorem serve_maps (context : Context σ) (request : Request) :
    (context.serve request).maps = context.maps.registerAll (context.registered request) := by
  cases request with
  | evaluate tokens => exact context.evaluate_maps tokens
  | register name map => rfl
  | setLimit limit => rfl

theorem serve_all_maps (context : Context σ) (requests : List Request) :
    (context.serveAll requests).maps =
      context.maps.registerAll (context.allRegistered requests) := by
  induction requests generalizing context with
  | nil => rfl
  | cons request rest ih =>
      rw [allRegistered, DiceMaps.registerAll_append, ← serve_maps]
      exact ih (context.serve request)

/-- In a session that starts without maps, a name has the map of its last registration, there are
as many maps as different names were registered, and a registration gives the map that it
replaces. A list of tokens reports its first error and registers the dice maps in front of the roll
in which that lies, or all of them if it has none. Evaluating an expression changes no map. -/
theorem last_registration_wins (roller : σ) (limit : Option Nat) (requests : List Request) :
    let context := Context.new roller limit
    let made := context.allRegistered requests
    let reached := context.serveAll requests
    (∀ name, reached.maps.get? name = made.reverse.lookup name) ∧
    reached.maps.size = (made.map Prod.fst).toFinset.card ∧
    (∀ name map, (reached.register name map : Outcome σ ReadError (Option DiceMap)).result =
      .ok (made.reverse.lookup name)) ∧
    (∀ tokens,
      (∀ error, (reached.evaluate tokens).result = .error error ↔
        reached.firstError tokens = some error) ∧
      reached.registered (.evaluate tokens) =
        match reached.firstError tokens with
        | none => tokens.filterMap Token.registration?
        | some error =>
            (tokensBeforeRoll error.position tokens).filterMap Token.registration?) ∧
    ∀ expr : Expr, ((expr.eval reached.maps).run reached).context.maps = reached.maps := by
  intro context made reached
  have maps : reached.maps = DiceMaps.empty.registerAll made := context.serve_all_maps requests
  have found (name : String) : reached.maps.get? name = made.reverse.lookup name := by
    rw [maps, DiceMaps.get?_registerAll]
    exact Option.or_none
  refine ⟨found, ?_, fun name map => congrArg Except.ok (found name), fun tokens =>
    ⟨reached.evaluate_error_iff tokens, reached.registered_tokens tokens⟩, fun expr =>
    (expr.eval reached.maps).run_maps reached⟩
  rw [maps, DiceMaps.size_eq_card_names, DiceMaps.names_registerAll]
  simp [DiceMaps.names, DiceMaps.empty]

/-- A session with two lists that fail: behind a registration on request, the first list registers
the name again and one more before it divides by zero, and the second one registers a map before a
roll that is never closed. What stands behind the failures is not registered. -/
theorem last_registration_wins_two_failures :
    let first : DiceMap := .empty
    let second : DiceMap := .ofList [(1, "hit")]
    let third : DiceMap := .ofList [(6, "miss")]
    let division : List Token :=
      [.diceMap "luck" second, .delimiter, .diceMap "fate" third, .delimiter,
        .literal (.number 1), .operator .multiplicative "/", .literal (.number 0), .delimiter,
        .diceMap "luck" third]
    let unclosed : List Token :=
      [.diceMap "fate" first, .delimiter, .groupOpen, .literal (.number 1), .delimiter,
        .diceMap "doom" third]
    let context : Context Replay := .new (.ofArray #[]) none
    let requests : List Request :=
      [.register "luck" first, .evaluate division, .setLimit 2, .evaluate unclosed]
    let reached := context.serveAll requests
    context.allRegistered requests =
        [("luck", first), ("luck", second), ("fate", third), ("fate", first)] ∧
      reached.maps.get? "luck" = some second ∧ reached.maps.get? "fate" = some first ∧
      reached.maps.get? "doom" = none ∧ reached.maps.size = 2 ∧
      (reached.register "luck" third : Outcome Replay ReadError (Option DiceMap)).result =
        .ok (some second) ∧
      (reached.evaluate division).result = .error ⟨.roll .zeroDivision, .ended, 5⟩ := by
  intro first second third division unclosed context requests reached
  let registrations := [("luck", first), ("luck", second), ("fate", third), ("fate", first)]
  have made : context.allRegistered requests = registrations := by decide +kernel
  have divides : reached.firstError division = some ⟨.roll .zeroDivision, .ended, 5⟩ := by
    decide +kernel
  obtain ⟨found, size, replaced, lists, _⟩ :=
    last_registration_wins (Replay.ofArray #[]) none requests
  have held (name : String) : reached.maps.get? name = registrations.reverse.lookup name := by
    rw [← made]
    exact found name
  have luck : registrations.reverse.lookup "luck" = some second := by decide +kernel
  refine ⟨made, (held "luck").trans luck, (held "fate").trans (by decide +kernel),
    (held "doom").trans (by decide +kernel), ?_, ?_, ((lists division).1 _).mpr divides⟩
  · have names : reached.maps.size = (registrations.map Prod.fst).toFinset.card := by
      rw [← made]
      exact size
    exact names.trans (by decide +kernel)
  · rw [← luck, ← made]
    exact replaced "luck" third

end Context

end DiceLang
