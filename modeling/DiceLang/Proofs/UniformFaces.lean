import DiceLang.Roller.Seeded
import Mathlib.Algebra.Order.Floor.Div
import Mathlib.Data.Set.Card
import Mathlib.Order.Interval.Finset.Nat

/-!
# Equally many words for every face

The words that select a face are those whose products with the number of sides lie in one stretch
of as many numbers as there are words, and the accepted ones are those of its beginning, up to the
zone. With the zone one short of a multiple of the sides, the beginning of each stretch holds
equally many products: from the first one on, every word in turn, one for each time that the sides
go into the zone. Where the stretch begins between two products makes no difference.

Both zones are of this kind. That of a batch is the last one there is, so a word that is accepted
for a single die is accepted in a batch as well, and the face does not depend on the way of drawing.
-/

namespace DiceLang.Die

set_option autoImplicit false

variable (die : Die) (way : Draw)

/-- The word is accepted for the die and shows that face. -/
def Gives (die : Die) (way : Draw) (word : UInt32) (face : Nat) : Prop :=
  die.accepts way word = true ∧ die.face word = face

instance (die : Die) (way : Draw) (word : UInt32) (face : Nat) :
    Decidable (die.Gives way word face) :=
  inferInstanceAs (Decidable (_ ∧ _))

/-- The number of words that give one face. -/
def share (die : Die) (way : Draw) : Nat :=
  (die.zone way + 1) / die.sides

section Zones

theorem zone_batch : die.zone .batch + 1 = wordCount / die.sides * die.sides := by
  have small := die.sides_lt
  have left : (wordCount - die.sides) % die.sides = wordCount % die.sides :=
    (Nat.mod_eq_sub_mod (Nat.le_of_lt small)).symm
  have remainder := Nat.mod_lt wordCount die.sides_pos
  have parts := Nat.div_add_mod' wordCount die.sides
  rw [zone, left]
  omega

theorem zone_single : die.zone .single + 1 = 2 ^ (31 - Nat.log2 die.sides) * die.sides := by
  have positive := Nat.mul_pos (Nat.two_pow_pos (31 - Nat.log2 die.sides)) die.sides_pos
  rw [zone, Nat.shiftLeft_eq, Nat.mul_comm die.sides]
  omega

theorem sides_dvd_zone : die.sides ∣ die.zone way + 1 := by
  cases way with
  | batch => exact ⟨_, (zone_batch die).trans (Nat.mul_comm _ _)⟩
  | single => exact ⟨_, (zone_single die).trans (Nat.mul_comm _ _)⟩

/-- The sides fill the highest bit of a word, and no more. -/
theorem zone_single_le : die.zone .single + 1 ≤ wordCount := by
  have nonzero : die.sides ≠ 0 := Nat.ne_of_gt die.sides_pos
  have bits : Nat.log2 die.sides < 32 := (Nat.log2_lt nonzero).mpr die.sides_lt
  have below : die.sides < 2 ^ (Nat.log2 die.sides + 1) := Nat.lt_log2_self
  rw [zone_single]
  calc 2 ^ (31 - Nat.log2 die.sides) * die.sides
      ≤ 2 ^ (31 - Nat.log2 die.sides) * 2 ^ (Nat.log2 die.sides + 1) :=
        Nat.mul_le_mul_left _ (Nat.le_of_lt below)
    _ = 2 ^ (31 - Nat.log2 die.sides + (Nat.log2 die.sides + 1)) := (Nat.pow_add 2 _ _).symm
    _ = 2 ^ 32 := by rw [show 31 - Nat.log2 die.sides + (Nat.log2 die.sides + 1) = 32 by omega]

theorem zone_single_le_zone_batch : die.zone .single + 1 ≤ die.zone .batch + 1 := by
  have within := zone_single_le die
  rw [zone_batch]
  rw [zone_single] at within ⊢
  exact Nat.mul_le_mul_right _ ((Nat.le_div_iff_mul_le die.sides_pos).mpr within)

theorem zone_le : die.zone way + 1 ≤ wordCount := by
  cases way with
  | batch =>
      rw [zone_batch]
      exact Nat.div_mul_le_self _ _
  | single => exact zone_single_le die

theorem share_mul_sides : die.share way * die.sides = die.zone way + 1 :=
  Nat.div_mul_cancel (sides_dvd_zone die way)

theorem share_pos : 1 ≤ die.share way := by
  by_contra none
  have filled := share_mul_sides die way
  rw [Nat.lt_one_iff.mp (Nat.not_le.mp none), Nat.zero_mul] at filled
  omega

end Zones

section Words

/-- The first word that selects the face behind `selected` others. -/
def firstWord (die : Die) (selected : Nat) : Nat :=
  selected * wordCount ⌈/⌉ die.sides

theorem first_word_add_le_iff (selected more number : Nat) :
    die.firstWord selected + more ≤ number ↔
      selected * wordCount + more * die.sides ≤ number * die.sides := by
  have positive := die.sides_pos
  by_cases enough : more ≤ number
  · obtain ⟨rest, rfl⟩ := Nat.exists_eq_add_of_le enough
    have first : die.firstWord selected ≤ rest ↔ selected * wordCount ≤ die.sides * rest :=
      ceilDiv_le_iff_le_mul positive
    rw [Nat.add_comm more rest, Nat.add_mul, Nat.add_le_add_iff_right, Nat.add_le_add_iff_right,
      first, Nat.mul_comm rest]
  · have less := Nat.mul_lt_mul_of_pos_right (Nat.not_le.mp enough) positive
    omega

variable {die way}

theorem accepts_iff {word : UInt32} :
    die.accepts way word = true ↔ word.toNat * die.sides % wordCount ≤ die.zone way :=
  decide_eq_true_iff

theorem gives_iff {word : UInt32} {selected : Nat} :
    die.Gives way word (selected + 1) ↔
      die.firstWord selected ≤ word.toNat ∧
        word.toNat < die.firstWord selected + die.share way := by
  have first := first_word_add_le_iff die selected 0 word.toNat
  have behind := first_word_add_le_iff die selected (die.share way) word.toNat
  have within := zone_le die way
  rw [Nat.zero_mul, Nat.add_zero, Nat.add_zero] at first
  rw [← Nat.not_le, first, behind, share_mul_sides]
  -- Both sides now speak of one product, and it is divided by a fixed number.
  rw [Gives, accepts_iff, face]
  simp only [wordCount] at within ⊢
  omega

theorem first_word_add_share_le {selected : Nat} (inside : selected < die.sides) :
    die.firstWord selected + die.share way ≤ wordCount := by
  rw [first_word_add_le_iff, share_mul_sides]
  calc selected * wordCount + (die.zone way + 1)
      ≤ selected * wordCount + wordCount := Nat.add_le_add_left (zone_le die way) _
    _ = (selected + 1) * wordCount := (Nat.succ_mul selected wordCount).symm
    _ ≤ die.sides * wordCount := Nat.mul_le_mul_right _ inside
    _ = wordCount * die.sides := Nat.mul_comm _ _

/-- As numbers, the words of a face follow one another. -/
theorem words_of_face {selected : Nat} (inside : selected < die.sides) :
    UInt32.toNat '' {word | die.Gives way word (selected + 1)} =
      Set.Ico (die.firstWord selected) (die.firstWord selected + die.share way) := by
  ext number
  constructor
  · rintro ⟨word, given, rfl⟩
    exact gives_iff.mp given
  · rintro ⟨atLeast, below⟩
    have isWord : number < wordCount := Nat.lt_of_lt_of_le below (first_word_add_share_le inside)
    have read : (UInt32.ofNat number).toNat = number := UInt32.toNat_ofNat_of_lt' isWord
    refine ⟨UInt32.ofNat number, gives_iff.mpr ?_, read⟩
    rw [read]
    exact ⟨atLeast, below⟩

theorem words_of_face_ncard {selected : Nat} (inside : selected < die.sides) :
    {word | die.Gives way word (selected + 1)}.ncard = die.share way := by
  have numbered : Function.Injective UInt32.toNat := fun _ _ => UInt32.toNat_inj.mp
  rw [← Set.ncard_image_of_injective _ numbered, words_of_face inside, ← Finset.coe_Ico,
    Set.ncard_coe_finset, Nat.card_Ico, Nat.add_sub_cancel_left]

theorem Gives.in_batch {word : UInt32} {face : Nat} (given : die.Gives .single word face) :
    die.Gives .batch word face := by
  have wider := zone_single_le_zone_batch die
  obtain ⟨accepted, shown⟩ := given
  rw [accepts_iff] at accepted
  exact ⟨accepts_iff.mpr (by omega), shown⟩

end Words

/-- In either way of drawing, accepted words give faces of the die, and every face is given by
equally many of the words, which are as many as the sides go into the zone without a remainder, and
at least one. A word that is accepted for a single die gives the same face in a batch. -/
theorem faces_equally_likely (die : Die) :
    (∀ way,
      (∀ word face, die.Gives way word face → 1 ≤ face ∧ face ≤ die.sides) ∧
      (∀ face, 1 ≤ face → face ≤ die.sides →
        {word | die.Gives way word face}.ncard = (die.zone way + 1) / die.sides) ∧
      die.sides ∣ die.zone way + 1 ∧ 1 ≤ (die.zone way + 1) / die.sides) ∧
    ∀ word face, die.Gives .single word face → die.Gives .batch word face := by
  refine ⟨fun way => ⟨?_, ?_, sides_dvd_zone die way, share_pos die way⟩,
    fun word face given => given.in_batch⟩
  · rintro word face ⟨_, rfl⟩
    exact die.face_bounds word
  · intro face positive onDie
    obtain ⟨selected, rfl⟩ := Nat.exists_eq_add_of_le' positive
    exact words_of_face_ncard onDie

/-- The last face of a die with six sides, drawn in both ways, and a word that is too far up its
stretch for a single die. -/
theorem faces_equally_likely_six :
    let die : Die := ⟨6, by decide, by decide⟩
    {word | die.Gives .batch word 6}.ncard = 715827882 ∧
      {word | die.Gives .single word 6}.ncard = 536870912 ∧
      (die.Gives .single 0xd5555556 6 ∧ die.Gives .batch 0xd5555556 6) ∧
      ¬die.accepts .single 0x20000000 ∧ die.Gives .batch 0x20000000 1 := by
  intro die
  obtain ⟨each, alike⟩ := faces_equally_likely die
  have batch := (each .batch).2.1 6 (by decide) (by decide)
  have single := (each .single).2.1 6 (by decide) (by decide)
  have accepted : die.Gives .single 0xd5555556 6 := by decide
  exact ⟨batch.trans (by decide), single.trans (by decide), ⟨accepted, alike _ _ accepted⟩,
    by decide, by decide⟩

end DiceLang.Die
