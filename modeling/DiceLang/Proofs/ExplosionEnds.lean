import DiceLang.Proofs.Explosions
import DiceLang.Proofs.SoundRollers

/-!
# Explosions end

A die that shows its greatest face is thrown again, and nothing in the rules says how often. But
each such throw adds the size of the die to a total that has to fit, so a die of `size` sides is
thrown again at most `highest / size` times. This holds for every roller and every budget, also for
rolls that are broken off.

Dice that are in their domain break off for two reasons only: the total of one of them no longer
fits, or a limit has been passed. So if nothing but greatest faces comes up, the roll ends in an
overflow as soon as the first die has been thrown again `highest / size` times, or a limit stops it
before that.
-/

namespace DiceLang.Dice

set_option autoImplicit false

variable {σ α : Type} {count size : Int} {faces : List UInt32}

section Bounds

theorem BreaksOff.bounded {first : UInt32} {block : List UInt32} {error : RollError}
    (broken : BreaksOff size first block error) :
    (block.length : Int) ≤ Integer.highest / size := by
  cases broken with
  | refused _ _ room => exact Int.le_of_lt room
  | overflown _ _ room _ =>
      rw [List.length_append]
      exact room

theorem settled_length_le {firsts : List UInt32} {blocks : List (List UInt32)}
    (follow : List.Forall₂ (Settles size) firsts blocks) :
    (blocks.flatten.length : Int) ≤ firsts.length * (Integer.highest / size) := by
  induction follow with
  | nil => simp
  | cons own _ ih =>
      have here := own.bounded
      rw [List.flatten_cons, List.length_append, List.length_cons]
      push_cast
      linarith

theorem ExplodingCourse.length_le {result : Except RollError Pool} (several : 2 ≤ size)
    (course : ExplodingCourse count size faces result) :
    (faces.length : Int) ≤ count.toNat * (1 + Integer.highest / size) := by
  have quotient : 0 ≤ Integer.highest / size := Int.ediv_nonneg (by decide) (by omega)
  have nothing : (([] : List UInt32).length : Int) ≤ count.toNat * (1 + Integer.highest / size) :=
    Int.mul_nonneg (Int.natCast_nonneg _) (by omega)
  cases course with
  | turnedDown _ _ => exact nothing
  | refused _ => exact nothing
  | @brokenOff front rest first blocks block error _ all follow broken =>
      have again := settled_length_le follow
      have last := broken.bounded
      have unused := Int.mul_nonneg (Int.natCast_nonneg rest.length) quotient
      subst all
      rw [Int.toNat_natCast]
      simp only [List.length_append, List.length_cons]
      push_cast
      linarith
  | @settled firsts blocks _ all follow =>
      have again := settled_length_le follow
      subst all
      rw [Int.toNat_natCast, List.length_append]
      push_cast
      linarith

theorem WildCourse.length_le {result : Except RollError Int} (several : 2 ≤ size)
    (course : WildCourse count size faces result) :
    (faces.length : Int) ≤ 1 * (1 + Integer.highest / size) + (count - 1).toNat := by
  have plain : (0 : Int) ≤ (count - 1).toNat := Int.natCast_nonneg _
  have quotient : 0 ≤ Integer.highest / size := Int.ediv_nonneg (by decide) (by omega)
  have one : ((1 : Int).toNat : Int) = 1 := rfl
  cases course with
  | turnedDown _ _ =>
      rw [List.length_nil]
      omega
  | brokenOff _ broken =>
      obtain ⟨given, exploded, _⟩ := broken
      have throws := exploded.length_le several
      rw [one] at throws
      omega
  | @settled _ others _ thrown _ settled regular =>
      obtain ⟨given, exploded, _⟩ := settled
      have throws := exploded.length_le several
      rw [one] at throws
      have few : (others.length : Int) ≤ (count - 1).toNat := by
        cases regular with
        | turnedDown _ _ => exact plain
        | refused _ => exact plain
        | thrown _ _ all => omega
      rw [List.length_append]
      push_cast
      omega

end Bounds

section Greatest

/-- What is left when nothing but greatest faces comes up: the roll is refused a throw, or it ends
in an overflow when the first die has been thrown again as often as it can be. -/
def Exhausts (exploding size : Int) (faces : List UInt32) (result : Except RollError α) : Prop :=
  result = .error .tooManyRolls ∨
    result = .error .overflow ∧ (faces.length : Int) = exploding + Integer.highest / size

theorem Settles.not_of_greatest {first : UInt32} {block : List UInt32}
    (exploded : faceValue first = size) (all : ∀ face ∈ block, faceValue face = size) :
    ¬Settles size first block := by
  intro settles
  have follow := settles.follow
  rw [Block, if_pos exploded] at follow
  obtain ⟨greatest, last, rfl, _, other⟩ := follow
  exact other (all last (by simp))

/-- An overflow among greatest faces comes with the throw behind those that fit. -/
theorem BreaksOff.exhausts {first : UInt32} {block : List UInt32} {error : RollError}
    (several : 2 ≤ size) (all : ∀ face ∈ block, faceValue face = size)
    (broken : BreaksOff size first block error) :
    error = .tooManyRolls ∨
      error = .overflow ∧ (block.length : Int) = Integer.highest / size := by
  cases broken with
  | refused _ _ _ => exact .inl rfl
  | @overflown greatest last exploded _ room passed =>
      have reached : Integer.highest / size < (greatest ++ [last]).length + 1 := by
        apply Int.ediv_lt_of_lt_mul (by omega)
        rw [blockTotal, exploded, greatest_sum all] at passed
        linarith
      rw [List.length_append] at reached ⊢
      push_cast at reached ⊢
      refine .inr ⟨rfl, ?_⟩
      have single : (([last] : List UInt32).length : Int) = 1 := rfl
      omega

theorem ExplodingCourse.exhausts {result : Except RollError Pool} (several : 2 ≤ size)
    (inWord : size < wordCount) (someDice : 1 ≤ count)
    (course : ExplodingCourse count size faces result)
    (all : ∀ face ∈ faces, faceValue face = size) : Exhausts count size faces result := by
  cases course with
  | turnedDown _ outside =>
      have nonneg : 0 ≤ count := by omega
      exact absurd ⟨nonneg, several, inWord⟩ outside
  | refused _ => exact .inl rfl
  | @brokenOff front rest first blocks block error _ counted follow broken =>
      cases follow with
      | nil =>
          have own : ∀ face ∈ block, faceValue face = size :=
            fun face member => all face (by simp [member])
          rcases broken.exhausts several own with rfl | ⟨rfl, throws⟩
          · exact .inl rfl
          · refine .inr ⟨rfl, ?_⟩
            rw [← counted, ← throws, List.length_append]
            exact Int.natCast_add _ _
      | @cons settledFirst settledBlock _ _ settles _ =>
          exact absurd settles (Settles.not_of_greatest (all settledFirst (by simp))
            fun face member => all face (by simp [member]))
  | @settled firsts blocks _ counted follow =>
      cases follow with
      | nil =>
          have noDice : (0 : Int) = count := counted
          omega
      | @cons first block _ _ settles _ =>
          exact absurd settles (Settles.not_of_greatest (all first (by simp))
            fun face member => all face (by simp [member]))

theorem TotalCourse.exhausts {result : Except RollError Int} (several : 2 ≤ size)
    (inWord : size < wordCount) (someDice : 1 ≤ count)
    (course : TotalCourse count size faces result)
    (all : ∀ face ∈ faces, faceValue face = size) : Exhausts count size faces result := by
  obtain ⟨given, exploded, rfl⟩ := course
  rcases exploded.exhausts several inWord someDice all with rfl | ⟨rfl, throws⟩
  · exact .inl rfl
  · exact .inr ⟨rfl, throws⟩

theorem WildCourse.exhausts {result : Except RollError Int} (several : 2 ≤ size)
    (inWord : size < wordCount) (someDice : 1 ≤ count) (course : WildCourse count size faces result)
    (all : ∀ face ∈ faces, faceValue face = size) : Exhausts 1 size faces result := by
  cases course with
  | turnedDown _ outside => exact absurd ⟨someDice, several, inWord⟩ outside
  | brokenOff _ broken => exact broken.exhausts several inWord (Int.le_refl 1) all
  | settled _ settled _ =>
      rcases settled.exhausts several inWord (Int.le_refl 1)
        (fun face member => all face (List.mem_append_left _ member)) with refused | ⟨overflown, _⟩
      · cases refused
      · cases overflown

end Greatest

/-- A roll with dice that may explode and with plain dice, carried out in this context. It is
turned down if its dice could explode for ever, and else it takes one of the courses described, is
refused dice only if a limit has been passed, and throws no more than a bounded number of dice. A
limit bounds them too. If nothing but greatest faces comes up, it ends in an overflow unless it was
refused a throw, and without a limit it was not. -/
structure Ends [Roller σ] (plan : Plan RollError α)
    (course : List UInt32 → Except RollError α → Prop) (exploding plain size : Int)
    (context : Context σ) : Prop where
  turnedDown : size < 2 →
    (∃ reason, (plan.run context).result = .error (.badArgument reason)) ∧
      plan.facesDrawn context = []
  thrown : course (plan.facesDrawn context) (plan.run context).result
  refused : (plan.run context).result = .error .tooManyRolls →
    ∃ limit, context.limit = some limit ∧ limit < (plan.run context).context.rolls
  finite : 2 ≤ size → ((plan.facesDrawn context).length : Int) ≤
    exploding.toNat * (1 + Integer.highest / size) + plain.toNat
  limited : ∀ limit, context.limit = some limit → limit < Budget.counterLimit →
    (plan.facesDrawn context).length ≤ limit
  greatest : 2 ≤ size → size < wordCount → 1 ≤ exploding → 0 ≤ plain →
    (∀ face ∈ plan.facesDrawn context, faceValue face = size) →
    Exhausts exploding size (plan.facesDrawn context) (plan.run context).result
  unlimited : 2 ≤ size → size < wordCount → 1 ≤ exploding → 0 ≤ plain →
    (∀ face ∈ plan.facesDrawn context, faceValue face = size) → context.limit = none →
    (plan.run context).result = .error .overflow ∧
      ((plan.facesDrawn context).length : Int) = exploding + Integer.highest / size

theorem Ends.of_course [Roller σ] {plan : Plan RollError α}
    {course : List UInt32 → Except RollError α → Prop} {exploding plain : Int}
    (down : size < 2 → ∃ reason, plan = .fail (.badArgument reason))
    (errors : plan.ErrorsIn (Eq .tooManyRolls) (· ≠ .tooManyRolls))
    (courses : ∀ {faces result}, plan.ComesTo faces result → course faces result)
    (finite : ∀ {faces result}, 2 ≤ size → course faces result →
      (faces.length : Int) ≤ exploding.toNat * (1 + Integer.highest / size) + plain.toNat)
    (exhausts : ∀ {faces result}, 2 ≤ size → size < wordCount → 1 ≤ exploding → 0 ≤ plain →
      course faces result → (∀ face ∈ faces, faceValue face = size) →
      Exhausts exploding size faces result)
    (context : Context σ) : Ends plan course exploding plain size context := by
  have thrown := courses (plan.drawn_comes_to context)
  have refused : (plan.run context).result = .error .tooManyRolls →
      ∃ limit, context.limit = some limit ∧ limit < (plan.run context).context.rolls :=
    fun failed => Plan.passed_limit_of_error errors failed fun other => other rfl
  refine ⟨?_, thrown, refused, fun several => finite several thrown, ?_, ?_, ?_⟩
  · intro small
    obtain ⟨reason, rfl⟩ := down small
    exact ⟨⟨reason, rfl⟩, rfl⟩
  · intro limit limited below
    exact (plan.faces_drawn_le_limit limited below).trans (Nat.sub_le _ _)
  · intro several inWord someDice plainDice all
    exact exhausts several inWord someDice plainDice thrown all
  · intro several inWord someDice plainDice all noLimit
    rcases exhausts several inWord someDice plainDice thrown all with failed | overflown
    · obtain ⟨limit, limited, _⟩ := refused failed
      cases noLimit.symm.trans limited
    · exact overflown

/-- Pools of exploding dice, their totals and wild dice end, for every roller and every budget: dice
with fewer than two sides are turned down without a throw, a die is thrown again at most
`highest / size` times, a roll breaks off only with an overflow or under a limit that has been
passed, and under a limit no more dice are drawn than that. Dice that show nothing but their
greatest face end in an overflow if there is no limit. -/
theorem explosions_end [Roller σ] (context : Context σ) (count size : Int) :
    Ends (explodingPool count size) (ExplodingCourse count size) count 0 size context ∧
      Ends (explodingTotal count size) (TotalCourse count size) count 0 size context ∧
      Ends (wild count size) (WildCourse count size) 1 (count - 1) size context := by
  have tooSmall : size < 2 → ¬PoolRoll.exploding.domain.Admits count size :=
    fun small inside => absurd inside.2.1 (Int.not_le.mpr small)
  have tooSmallWild : size < 2 → ¬DiceRoll.wild.domain.Admits count size :=
    fun small inside => absurd inside.2.1 (Int.not_le.mpr small)
  refine ⟨.of_course (fun small => exploding_pool_outside (tooSmall small))
      (exploding_pool_errors rfl nofun (fun _ => nofun) count size) exploding_pool_course ?_ ?_
      context,
    .of_course (fun small => exploding_total_outside (tooSmall small))
      (exploding_total_errors rfl nofun (fun _ => nofun) count size) exploding_total_course ?_ ?_
      context,
    .of_course (fun small => wild_outside (tooSmallWild small))
      (wild_errors rfl nofun (fun _ => nofun) count size) wild_course ?_ ?_ context⟩
  · intro faces result several course
    simpa using course.length_le several
  · intro faces result several inWord someDice _ course
    exact course.exhausts several inWord someDice
  · rintro faces result several ⟨given, exploded, _⟩
    simpa using exploded.length_le several
  · intro faces result several inWord someDice _ course
    exact course.exhausts several inWord someDice
  · intro faces result several course
    exact course.length_le several
  · intro faces result several inWord _ plainDice course
    exact course.exhausts several inWord (by omega)

/-- A roller that shows nothing but the greatest face: the largest die overflows after as many
throws as fit, and a limit of four stops two dice with six sides before their fifth throw. -/
theorem explosions_end_always_greatest :
    let largest : Context Replay := .new ⟨fun _ => 4294967295, 0⟩ none
    let limited : Context Replay := .new ⟨fun _ => 6, 0⟩ (some 4)
    let overflown := explodingPool 1 4294967295
    let stopped := explodingPool 2 6
    (overflown.run largest).result = .error .overflow ∧
      ((overflown.facesDrawn largest).length : Int) = 1 + 2147483648 ∧
      (stopped.run limited).result = .error .tooManyRolls ∧
      stopped.facesDrawn limited = [6, 6, 6, 6] ∧
      ∃ limit, limited.limit = some limit ∧ limit < (stopped.run limited).context.rolls := by
  intro largest limited overflown stopped
  have shown : ∀ face ∈ overflown.facesDrawn largest, faceValue face = 4294967295 :=
    (exploding_pool_throws 1 4294967295).faces_drawn
      (fun replay : Replay => replay.faces = fun _ => 4294967295)
      (fun _ _ _ replay same => ⟨congrArg faceValue (congrFun same replay.drawn), same⟩) rfl
  have refused : (stopped.run limited).result = .error .tooManyRolls := by decide +kernel
  have drawn : stopped.facesDrawn limited = [6, 6, 6, 6] := by decide +kernel
  obtain ⟨overflow, throws⟩ := (explosions_end largest 1 4294967295).1.unlimited (by decide)
    (by decide) (by decide) (by decide) shown rfl
  exact ⟨overflow, throws, refused, drawn, (explosions_end limited 2 6).1.refused refused⟩

end DiceLang.Dice
