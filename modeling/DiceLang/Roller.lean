import DiceLang.Error

/-!
# Rollers

A roller is a source of faces. Dice are drawn either as part of a batch or singly (`roll_iter` and
`roll`), and a roller may treat the two differently. Whatever it does, a draw returns a face of 32
bits; that the face lies on the die is a property of some rollers, not of all of them.

A roller may stand around another one and observe it: a counted roller counts the dice drawn, a
recorded roller keeps their faces. What they tell was drawn, whatever was charged for it.
-/

namespace DiceLang

set_option autoImplicit false

/-- The number of different words of 32 bits. -/
def wordCount : Nat := 0x100000000

/-- A die that a roller can be asked for: its sides can be counted in a word. -/
structure Die where
  sides : Nat
  sides_pos : 0 < sides
  sides_lt : sides < wordCount
  deriving DecidableEq

def Die.ofSize (size : Int) : Except RollError Die :=
  if bounds : 0 < size ∧ size < wordCount then
    .ok ⟨size.toNat, by omega, by omega⟩
  else .error (.badArgument (.sides size))

inductive Draw where
  | batch
  | single
  deriving DecidableEq, Repr

class Roller (σ : Type) where
  draw : Draw → Die → σ → UInt32 × σ

namespace Roller

variable {σ : Type} [Roller σ]

/-- Draws `count` dice of a batch, adding their faces to those already `drawn`, last one first. -/
def drawOnto (die : Die) : Nat → List UInt32 → σ → List UInt32 × σ
  | 0, drawn, roller => (drawn, roller)
  | count + 1, drawn, roller =>
      let (face, roller) := draw .batch die roller
      drawOnto die count (face :: drawn) roller

/-- A batch of dice, in the order in which they are drawn. -/
def drawBatch (die : Die) (count : Nat) (roller : σ) : List UInt32 × σ :=
  let (drawn, roller) := drawOnto die count [] roller
  (drawn.reverse, roller)

theorem drawOnto_length (die : Die) (count : Nat) (drawn : List UInt32) (roller : σ) :
    (drawOnto die count drawn roller).1.length = count + drawn.length := by
  induction count generalizing drawn roller with
  | zero => simp [drawOnto]
  | succ count ih =>
      rw [drawOnto, ih, List.length_cons]
      omega

theorem drawBatch_length (die : Die) (count : Nat) (roller : σ) :
    (drawBatch die count roller).1.length = count := by
  simp [drawBatch, drawOnto_length]

end Roller

/-- A roller that replays a sequence of faces, one for each die whatever its size. -/
structure Replay where
  faces : Nat → UInt32
  /-- The number of dice drawn so far. -/
  drawn : Nat

namespace Replay

/-- The listed faces, and a 1 for every die after them. -/
def ofArray (faces : Array UInt32) : Replay :=
  ⟨fun index => faces.getD index 1, 0⟩

instance : Roller Replay where
  draw _ _ replay := (replay.faces replay.drawn, { replay with drawn := replay.drawn + 1 })

end Replay

/-- Draws as the roller inside it does and counts the dice it has drawn. -/
structure Counted (σ : Type) where
  roller : σ
  drawn : Nat

instance {σ : Type} [Roller σ] : Roller (Counted σ) where
  draw draw die counted :=
    let (face, roller) := Roller.draw draw die counted.roller
    (face, ⟨roller, counted.drawn + 1⟩)

/-- Draws as the roller inside it does and keeps the faces that it has drawn, in order. -/
structure Recorded (σ : Type) where
  roller : σ
  faces : List UInt32

instance {σ : Type} [Roller σ] : Roller (Recorded σ) where
  draw draw die recorded :=
    let (face, roller) := Roller.draw draw die recorded.roller
    (face, ⟨roller, recorded.faces ++ [face]⟩)

end DiceLang
