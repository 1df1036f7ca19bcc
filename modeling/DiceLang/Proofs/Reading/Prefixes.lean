import DiceLang.Proofs.Reading.Steps
import DiceLang.Reading

/-!
# Reading a list piece by piece

The reader goes through a list once and never turns back, so what it does with the rest of a list
depends only on the state in which the first part leaves it. Either it takes all tokens of a list,
or there is a first one that it refuses; nothing behind that token matters.
-/

namespace DiceLang

set_option autoImplicit false

/-- The reader takes the tokens, the first of which has the index `position`, hands out `rolls`
on the way, and is left as `last`. -/
inductive Reader.Takes : Reader → Nat → List Token → List Roll → Reader → Prop where
  | nothing (reader : Reader) (position : Nat) : Takes reader position [] [] reader
  | token {reader next last : Reader} {position : Nat} {token : Token} {tokens : List Token}
      {roll : Option Roll} {rolls : List Roll} :
      reader.step position token = .ok (next, roll) → Takes next (position + 1) tokens rolls last →
      Takes reader position (token :: tokens) (roll.toList ++ rolls) last

/-- The reader takes the tokens `before` and refuses the one behind them. -/
def Reader.RefusesAfter (reader : Reader) (position : Nat) (before : List Token) (token : Token)
    (rolls : List Roll) (fault : ReadError) : Prop :=
  ∃ last, reader.Takes position before rolls last ∧
    last.step (position + before.length) token = .error fault

namespace Reading

theorem go_on_of_step {reader next : Reader} {position : Nat} {token : Token}
    {roll : Option Roll} (taken : reader.step position token = .ok (next, roll))
    (tokens : List Token) :
    goOn reader position (token :: tokens) = (goOn next (position + 1) tokens).push roll := by
  rw [goOn, taken]

theorem go_on_of_silent_step {reader next : Reader} {position : Nat} {token : Token}
    (taken : reader.step position token = .ok (next, none)) (tokens : List Token) :
    goOn reader position (token :: tokens) = goOn next (position + 1) tokens := by
  rw [go_on_of_step taken]
  rfl

def precededBy (reading : Reading) (rolls : List Roll) : Reading :=
  { reading with rolls := rolls ++ reading.rolls }

theorem go_on_append {reader last : Reader} {position : Nat} {tokens : List Token}
    {rolls : List Roll} (takes : reader.Takes position tokens rolls last) (rest : List Token) :
    goOn reader position (tokens ++ rest) =
      (goOn last (position + tokens.length) rest).precededBy rolls := by
  induction takes with
  | nothing reader position => rfl
  | @token reader next last position token tokens roll rolls taken takes ih =>
      have later : position + 1 + tokens.length = position + (tokens.length + 1) := by omega
      rw [List.cons_append, go_on_of_step taken, ih, later, List.length_cons]
      simp [push, precededBy]

theorem go_on_refused {reader : Reader} {position : Nat} {before : List Token} {token : Token}
    {rolls : List Roll} {fault : ReadError}
    (refuses : reader.RefusesAfter position before token rolls fault) (after : List Token) :
    goOn reader position (before ++ token :: after) = ⟨rolls, some fault⟩ := by
  obtain ⟨last, takes, refused⟩ := refuses
  rw [go_on_append takes, goOn, refused]
  simp [precededBy]

end Reading

theorem Reader.takes_or_refuses (reader : Reader) (position : Nat) (tokens : List Token) :
    (∃ rolls last, reader.Takes position tokens rolls last) ∨
      ∃ before token after rolls fault, tokens = before ++ token :: after ∧
        reader.RefusesAfter position before token rolls fault := by
  induction tokens generalizing reader position with
  | nil => exact .inl ⟨[], reader, .nothing reader position⟩
  | cons token tokens ih =>
      cases taken : reader.step position token with
      | error fault =>
          have refuses : reader.RefusesAfter position [] token [] fault :=
            ⟨reader, .nothing reader position, taken⟩
          exact .inr ⟨[], token, tokens, [], fault, rfl, refuses⟩
      | ok result =>
          obtain ⟨next, roll⟩ := result
          rcases ih next (position + 1) with
            ⟨rolls, last, takes⟩ | ⟨before, stop, after, rolls, fault, split, refuses⟩
          · exact .inl ⟨_, last, .token taken takes⟩
          · obtain ⟨last, takes, refused⟩ := refuses
            have later : position + (token :: before).length = position + 1 + before.length := by
              rw [List.length_cons]
              omega
            rw [← later] at refused
            exact .inr ⟨token :: before, stop, after, _, fault, by rw [split, List.cons_append],
              last, .token taken takes, refused⟩

/-- A list is read to its end, which completes the last roll or is itself at fault, or only up to
a token that is refused. -/
theorem Reading.of_tokens_cases (tokens : List Token) :
    (∃ rolls last roll, Reader.start.Takes 0 tokens rolls last ∧
      last.finish tokens.length = .ok roll ∧ ofTokens tokens = ⟨rolls ++ roll.toList, none⟩) ∨
    (∃ rolls last fault, Reader.start.Takes 0 tokens rolls last ∧
      last.finish tokens.length = .error fault ∧ ofTokens tokens = ⟨rolls, some fault⟩) ∨
    ∃ before token after rolls fault, tokens = before ++ token :: after ∧
      Reader.start.RefusesAfter 0 before token rolls fault ∧
      ofTokens tokens = ⟨rolls, some fault⟩ := by
  rcases Reader.start.takes_or_refuses 0 tokens with
    ⟨rolls, last, takes⟩ | ⟨before, token, after, rolls, fault, rfl, refuses⟩
  · have whole := go_on_append takes []
    rw [List.append_nil, Nat.zero_add, goOn] at whole
    cases finished : last.finish tokens.length with
    | ok roll =>
        rw [finished] at whole
        exact .inl ⟨rolls, last, roll, takes, finished, whole⟩
    | error fault =>
        rw [finished] at whole
        refine .inr (.inl ⟨rolls, last, fault, takes, finished, whole.trans ?_⟩)
        simp [precededBy]
  · exact .inr (.inr ⟨before, token, after, rolls, fault, rfl, refuses,
      go_on_refused refuses after⟩)

theorem read_rolls_error_iff {tokens : List Token} {fault : ReadError} :
    readRolls tokens = .error fault ↔ (Reading.ofTokens tokens).fault = some fault := by
  dsimp only [readRolls]
  cases found : (Reading.ofTokens tokens).fault with
  | none => simp
  | some other => simp

theorem read_rolls_of_clean {tokens : List Token}
    (clean : (Reading.ofTokens tokens).fault = none) : ∃ rolls, readRolls tokens = .ok rolls := by
  dsimp only [readRolls]
  rw [clean]
  exact ⟨_, rfl⟩

end DiceLang
