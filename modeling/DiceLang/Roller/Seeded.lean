import DiceLang.Roller
import DiceLang.Roller.Keystream

/-!
# Reproducible rollers

A uniform 32-bit word is multiplied by the number of sides. The high half of the product selects
the face; the low half tells whether the word is accepted. Words with a low half beyond the zone
are rejected, which leaves equally many words for every face. The zone of a batch keeps as many
words as possible; the zone of a single draw is cheaper to find and keeps fewer.

A seeded roller walks along the word stream of its seed and draws words until one is accepted,
however many are rejected before it. The stream repeats itself, so the walk for one die is over
once a whole period has been rejected: then no word is ever accepted, and there is no face to draw.
-/

namespace DiceLang

set_option autoImplicit false

namespace Die

def zone (die : Die) : Draw → Nat
  | .batch => wordCount - 1 - (wordCount - die.sides) % die.sides
  | .single => (die.sides <<< (31 - Nat.log2 die.sides)) - 1

def accepts (die : Die) (draw : Draw) (word : UInt32) : Bool :=
  word.toNat * die.sides % wordCount ≤ die.zone draw

def face (die : Die) (word : UInt32) : Nat :=
  1 + word.toNat * die.sides / wordCount

theorem face_bounds (die : Die) (word : UInt32) :
    1 ≤ die.face word ∧ die.face word ≤ die.sides := by
  have scaled : word.toNat * die.sides / wordCount < die.sides := by
    apply Nat.div_lt_of_lt_mul
    exact Nat.mul_lt_mul_of_pos_right word.toNat_lt die.sides_pos
  rw [face]
  exact ⟨Nat.le_add_right 1 _, by rwa [Nat.add_comm]⟩

end Die

structure Seeded where
  key : Keystream.Key
  /-- The number of words used so far. -/
  position : Nat
  deriving DecidableEq, Repr

namespace Seeded

def ofSeed (seed : UInt64) : Seeded :=
  ⟨.ofSeed seed, 0⟩

/-- Goes on to the first word that is accepted, looking at no more words than `patience`. -/
def drawWithin (draw : Draw) (die : Die) : Nat → Seeded → UInt32 × Seeded
  | 0, roller => (1, roller)
  | patience + 1, roller =>
      let word := roller.key.word roller.position
      let roller := { roller with position := roller.position + 1 }
      if die.accepts draw word then (UInt32.ofNat (die.face word), roller)
      else drawWithin draw die patience roller

instance : Roller Seeded where
  draw draw die roller := drawWithin draw die Keystream.period roller

theorem drawWithin_of_accepted {draw : Draw} {die : Die} {key : Keystream.Key}
    {patience position rejected : Nat} (within : rejected < patience)
    (before : ∀ n < rejected, ¬die.accepts draw (key.word (position + n)) = true)
    (accepted : die.accepts draw (key.word (position + rejected)) = true) :
    drawWithin draw die patience ⟨key, position⟩ =
      (UInt32.ofNat (die.face (key.word (position + rejected))),
        ⟨key, position + rejected + 1⟩) := by
  induction patience generalizing rejected position with
  | zero => omega
  | succ patience ih =>
      rw [drawWithin]
      dsimp only
      cases rejected with
      | zero =>
          rw [Nat.add_zero position] at accepted ⊢
          rw [if_pos accepted]
      | succ rejected =>
          have here := before 0 (Nat.zero_lt_succ rejected)
          rw [Nat.add_zero] at here
          have next (n : Nat) : position + (n + 1) = position + 1 + n := by omega
          rw [next rejected] at accepted ⊢
          rw [if_neg here]
          have later : ∀ n < rejected,
              ¬die.accepts draw (key.word (position + 1 + n)) = true := by
            intro n less
            rw [← next]
            exact before (n + 1) (Nat.succ_lt_succ less)
          exact ih (Nat.lt_of_succ_lt_succ within) later accepted

/-- The first word that is accepted gives the face, whatever number of words is rejected first:
more than a period of them cannot be, because the accepted word was then among them. -/
theorem draws_first_accepted {draw : Draw} {die : Die} {key : Keystream.Key}
    {position rejected : Nat}
    (before : ∀ n < rejected, ¬die.accepts draw (key.word (position + n)) = true)
    (accepted : die.accepts draw (key.word (position + rejected)) = true) :
    Roller.draw draw die (Seeded.mk key position) =
      (UInt32.ofNat (die.face (key.word (position + rejected))),
        ⟨key, position + rejected + 1⟩) := by
  have within : rejected < Keystream.period := by
    apply Nat.lt_of_not_le
    intro tooMany
    have earlier := before (rejected - Keystream.period)
      (Nat.sub_lt_self Keystream.period_pos tooMany)
    have again : position + rejected =
        position + (rejected - Keystream.period) + Keystream.period := by
      rw [Nat.add_assoc, Nat.sub_add_cancel tooMany]
    rw [again, Keystream.Key.word_add_period] at accepted
    exact earlier accepted
  exact drawWithin_of_accepted within before accepted

end Seeded

end DiceLang
