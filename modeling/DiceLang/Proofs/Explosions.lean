import DiceLang.Proofs.DiceDomains
import Mathlib.Tactic.Linarith

/-!
# Exploding pools

The dice of an exploding pool are first thrown as one batch. Then each die in turn that has shown
its greatest face is thrown again until another face comes up. So the faces drawn are the first
faces of all dice, followed by one block of further throws for each die; the block is empty unless
the die explodes. A die counts the sum of its throws. If all faces lie on the die, the number of
throws can be read off that sum.

The total of exploding dice goes as their pool does, and so does a roll with a wild die, which is
the only one to explode.

An explosion may also break off, because a throw is refused or because the total no longer fits. The
greatest faces in front of that did fit, so there are never more of them than fit.
-/

namespace DiceLang.Dice

set_option autoImplicit false

/-- The throws that follow when a die of this size has first shown this face. -/
def Block (size : Int) (first : UInt32) (block : List UInt32) : Prop :=
  if faceValue first = size then
    ∃ greatest last, block = greatest ++ [last] ∧ (∀ face ∈ greatest, faceValue face = size) ∧
      faceValue last ≠ size
  else block = []

def blockTotal (first : UInt32) (block : List UInt32) : Int :=
  faceValue first + (block.map faceValue).sum

/-- How an explosion can go on from a total: up to a face that is not the greatest one, up to a
throw that is refused, or up to one that no longer fits. -/
inductive Explosion (size total : Int) : List UInt32 → Except RollError Int → Prop where
  | settled {greatest : List UInt32} {last : UInt32} :
      (∀ face ∈ greatest, faceValue face = size) →
      total + greatest.length * size ≤ Integer.highest → faceValue last ≠ size →
      Explosion size total (greatest ++ [last])
        (.ok (total + ((greatest ++ [last]).map faceValue).sum))
  | refused {greatest : List UInt32} :
      (∀ face ∈ greatest, faceValue face = size) →
      total + greatest.length * size ≤ Integer.highest →
      Explosion size total greatest (.error .tooManyRolls)
  | overflown {greatest : List UInt32} {last : UInt32} :
      (∀ face ∈ greatest, faceValue face = size) →
      total + greatest.length * size ≤ Integer.highest →
      Integer.highest < total + ((greatest ++ [last]).map faceValue).sum →
      Explosion size total (greatest ++ [last]) (.error .overflow)

theorem Explosion.cons {size total : Int} {face : UInt32} {faces : List UInt32}
    {result : Except RollError Int} (shown : faceValue face = size)
    (later : Explosion size (total + faceValue face) faces result) :
    Explosion size total (face :: faces) result := by
  have also {greatest : List UInt32} (all : ∀ other ∈ greatest, faceValue other = size) :
      ∀ other ∈ face :: greatest, faceValue other = size :=
    List.forall_mem_cons.mpr ⟨shown, all⟩
  have room {greatest : List UInt32}
      (within : total + faceValue face + greatest.length * size ≤ Integer.highest) :
      total + ((face :: greatest).length : Int) * size ≤ Integer.highest := by
    rw [shown] at within
    rw [List.length_cons]
    push_cast
    linarith
  have added (others : List UInt32) : total + faceValue face + (others.map faceValue).sum =
      total + ((face :: others).map faceValue).sum := by
    rw [List.map_cons, List.sum_cons, Int.add_assoc]
  cases later with
  | settled all within other =>
      rw [added]
      exact .settled (also all) (room within) other
  | refused all within => exact .refused (also all) (room within)
  | overflown all within passed =>
      rw [added] at passed
      exact .overflown (also all) (room within) passed

theorem explode_course {die : Die} {total : Int} {faces : List UInt32}
    {result : Except RollError Int} (nonneg : 0 ≤ total) (fits : total ≤ Integer.highest)
    (comes : (explode die total).ComesTo faces result) :
    Explosion die.sides total faces result := by
  induction total using explode.induct die generalizing faces with
  | case1 total ih =>
      have start : total + ([] : List UInt32).length * die.sides ≤ Integer.highest := by
        simpa using fits
      rw [explode] at comes
      rcases comes with ⟨rfl, rfl⟩ | ⟨face, later, rfl, comes⟩
      · exact .refused (List.forall_mem_nil _) start
      · have shown : 0 ≤ faceValue face := Int.natCast_nonneg _
        have added : total + (([] ++ [face]).map faceValue).sum = total + faceValue face := by
          simp
        dsimp only at comes
        split at comes
        · rename_i newFits
          split at comes
          · rename_i isGreatest
            exact .cons (congrArg Nat.cast isGreatest)
              (ih face newFits isGreatest (Int.add_nonneg nonneg shown) newFits.2 comes)
          · rename_i notGreatest
            obtain ⟨rfl, rfl⟩ := comes
            rw [← added]
            exact .settled (List.forall_mem_nil _) start fun same =>
              notGreatest (Int.ofNat.inj same)
        · rename_i tooLarge
          obtain ⟨rfl, rfl⟩ := comes
          have passed : Integer.highest < total + faceValue face := by
            simp only [Integer.Fits, Integer.lowest] at tooLarge
            omega
          rw [← added] at passed
          exact .overflown (List.forall_mem_nil _) start passed

/-- The die settles: it is thrown again until it shows another face than its greatest one. -/
structure Settles (size : Int) (first : UInt32) (block : List UInt32) : Prop where
  follow : Block size first block
  bounded : (block.length : Int) ≤ Integer.highest / size

/-- The roll breaks off at a die that first showed its greatest face. Either it has shown no other
face since and is refused one more throw, for which there was still room, or its last throw is the
one with which the total passes the highest number. -/
inductive BreaksOff (size : Int) (first : UInt32) : List UInt32 → RollError → Prop where
  | refused {block : List UInt32} :
      faceValue first = size → (∀ face ∈ block, faceValue face = size) →
      (block.length : Int) < Integer.highest / size →
      BreaksOff size first block .tooManyRolls
  | overflown {greatest : List UInt32} {last : UInt32} :
      faceValue first = size → (∀ face ∈ greatest, faceValue face = size) →
      (greatest.length : Int) < Integer.highest / size →
      Integer.highest < blockTotal first (greatest ++ [last]) →
      BreaksOff size first (greatest ++ [last]) .overflow

theorem settle_course {die : Die} {first : UInt32} {block : List UInt32}
    {result : Except RollError Int}
    (comes : (settle die (faceValue first)).ComesTo block result) :
    (Settles die.sides first block ∧ result = .ok (blockTotal first block)) ∨
      ∃ error, BreaksOff die.sides first block error ∧ result = .error error := by
  have positive : (0 : Int) < die.sides := by exact_mod_cast die.sides_pos
  unfold settle at comes
  split at comes
  · rename_i exploded
    have inWord : (die.sides : Int) < wordCount := by exact_mod_cast die.sides_lt
    have fits : (die.sides : Int) ≤ Integer.highest := by
      simp only [wordCount, Integer.highest] at inWord ⊢
      omega
    -- The first throw has been counted before the explosion starts.
    have room {throws : Nat} (within : (die.sides : Int) + throws * die.sides ≤ Integer.highest) :
        (throws : Int) < Integer.highest / die.sides := by
      rw [← Int.add_one_le_iff, Int.le_ediv_iff_mul_le positive]
      linarith
    rw [exploded] at comes
    cases explode_course (Int.le_of_lt positive) fits comes with
    | @settled greatest last all within other =>
        refine .inl ⟨⟨?_, ?_⟩, by rw [blockTotal, exploded]⟩
        · rw [Block, if_pos exploded]
          exact ⟨greatest, last, rfl, all, other⟩
        · rw [List.length_append]
          exact room within
    | refused all within => exact .inr ⟨_, .refused exploded all (room within), rfl⟩
    | overflown all within passed =>
        refine .inr ⟨_, .overflown exploded all (room within) ?_, rfl⟩
        rw [blockTotal, exploded]
        exact passed
  · rename_i settled
    obtain ⟨rfl, rfl⟩ := comes
    refine .inl ⟨⟨?_, Int.ediv_nonneg (by decide) (Int.le_of_lt positive)⟩, ?_⟩
    · rw [Block, if_neg settled]
    · simp [blockTotal]

/-- How a roll of exploding dice can go: it is turned down, or all of it is refused, or it breaks
off at a die when those in front of it have settled, or all dice settle. -/
inductive ExplodingCourse (count size : Int) : List UInt32 → Except RollError Pool → Prop where
  | turnedDown (reason : BadArgument) : ¬PoolRoll.exploding.domain.Admits count size →
      ExplodingCourse count size [] (.error (.badArgument reason))
  | refused : PoolRoll.exploding.domain.Admits count size →
      ExplodingCourse count size [] (.error .tooManyRolls)
  | brokenOff {front rest : List UInt32} {first : UInt32} {blocks : List (List UInt32)}
      {block : List UInt32} {error : RollError} :
      PoolRoll.exploding.domain.Admits count size →
      ((front ++ first :: rest).length : Int) = count →
      List.Forall₂ (Settles size) front blocks → BreaksOff size first block error →
      ExplodingCourse count size (front ++ first :: rest ++ (blocks.flatten ++ block))
        (.error error)
  | settled {firsts : List UInt32} {blocks : List (List UInt32)} :
      PoolRoll.exploding.domain.Admits count size → (firsts.length : Int) = count →
      List.Forall₂ (Settles size) firsts blocks →
      ExplodingCourse count size (firsts ++ blocks.flatten)
        (.ok (List.zipWith blockTotal firsts blocks))

/-- How the total of exploding dice can go: as their pool does, which is then added up. -/
def TotalCourse (count size : Int) (faces : List UInt32) (result : Except RollError Int) : Prop :=
  ∃ given, ExplodingCourse count size faces given ∧ result = given.bind Pool.sum

/-- How a roll with a wild die can go: the wild die is thrown, and thrown again, before the plain
dice, and if it counts one, they count nothing. -/
inductive WildCourse (count size : Int) : List UInt32 → Except RollError Int → Prop where
  | turnedDown (reason : BadArgument) : ¬DiceRoll.wild.domain.Admits count size →
      WildCourse count size [] (.error (.badArgument reason))
  | brokenOff {faces : List UInt32} {error : RollError} :
      DiceRoll.wild.domain.Admits count size → TotalCourse 1 size faces (.error error) →
      WildCourse count size faces (.error error)
  | settled {faces others : List UInt32} {wild : Int} {thrown : Except RollError Pool} :
      DiceRoll.wild.domain.Admits count size → TotalCourse 1 size faces (.ok wild) →
      PoolCourse (count - 1) size others thrown →
      WildCourse count size (faces ++ others) (thrown.bind fun regular =>
        if wild = 1 then .ok 0
        else (Pool.sum regular).bind fun rest => Integer.checked (wild + rest))

section Courses

variable {count size : Int} {faces : List UInt32}

theorem exploding_pool_course {result : Except RollError Pool}
    (comes : (explodingPool count size).ComesTo faces result) :
    ExplodingCourse count size faces result := by
  by_cases inside : PoolRoll.exploding.domain.Admits count size
  · obtain ⟨die, sized, plan⟩ := exploding_pool_inside inside
    rw [plan] at comes
    rcases comes with ⟨rfl, rfl⟩ | ⟨firsts, later, rfl, all, comes⟩
    · exact .refused inside
    · have counted : (firsts.length : Int) = count := by
        rw [all]
        exact Int.toNat_of_nonneg inside.1
      have courses {first : UInt32} {block : List UInt32} {ending : Except RollError Int}
          (own : ((settle die ∘ faceValue) first).ComesTo block ending) :
          (Settles size first block ∧ ending = .ok (blockTotal first block)) ∨
            ∃ error, BreaksOff size first block error ∧ ending = .error error := by
        rw [← sides_of_size sized]
        exact settle_course own
      have settles {first : UInt32} {block : List UInt32} {total : Int}
          (own : ((settle die ∘ faceValue) first).ComesTo block (.ok total)) :
          Settles size first block ∧ total = blockTotal first block := by
        rcases courses own with ⟨settled, given⟩ | ⟨error, _, failed⟩
        · exact ⟨settled, Except.ok.inj given⟩
        · cases failed
      -- Behind the throws the pool is only logged.
      obtain ⟨given, thrown, rfl⟩ :=
        Plan.ComesTo.of_bind_known (f := Except.ok) comes fun logged => logged
      rw [List.mapM_map] at thrown
      rcases thrown.of_mapM settles with ⟨blocks, rfl, follow, rfl⟩ |
        ⟨front, first, rest, blocks, block, _, rfl, rfl, follow, stopped, rfl⟩
      · exact .settled inside counted follow
      · rcases courses stopped with ⟨_, settled⟩ | ⟨_, breaksOff, same⟩
        · cases settled
        · cases same
          exact .brokenOff inside counted follow breaksOff
  · obtain ⟨reason, plan⟩ := exploding_pool_outside inside
    rw [plan] at comes
    obtain ⟨rfl, rfl⟩ := comes
    exact .turnedDown reason inside

theorem exploding_pool_given {pool : Pool}
    (comes : (explodingPool count size).ComesTo faces (.ok pool)) :
    PoolRoll.exploding.domain.Admits count size ∧ ∃ firsts blocks,
      faces = firsts ++ blocks.flatten ∧ (firsts.length : Int) = count ∧
      List.Forall₂ (Block size) firsts blocks ∧ pool = List.zipWith blockTotal firsts blocks := by
  cases exploding_pool_course comes with
  | settled inside all follow =>
      exact ⟨inside, _, _, rfl, all, follow.imp fun _ _ settles => settles.follow, rfl⟩

theorem exploding_total_course {result : Except RollError Int}
    (comes : (explodingTotal count size).ComesTo faces result) :
    TotalCourse count size faces result := by
  obtain ⟨given, thrown, rfl⟩ := comes.of_bind_except
  exact ⟨given, exploding_pool_course thrown, rfl⟩

theorem wild_course {result : Except RollError Int}
    (comes : (wild count size).ComesTo faces result) : WildCourse count size faces result := by
  by_cases inside : DiceRoll.wild.domain.Admits count size
  · have someDice : 1 ≤ count := inside.1
    rw [wild, if_neg (Int.not_lt.mpr someDice)] at comes
    rcases comes.of_bind with ⟨error, broken, rfl⟩ | ⟨first, second, wild, rfl, here, there⟩
    · exact .brokenOff inside (exploding_total_course broken)
    · have settled := exploding_total_course here
      obtain ⟨thrown, plain, rfl⟩ := there.of_bind_known
        (f := fun regular => if wild = 1 then .ok 0
          else (Pool.sum regular).bind fun rest => Integer.checked (wild + rest)) <| by
        intro regular faces result last
        split at last
        · rename_i botched
          rw [if_pos botched]
          exact last
        · rename_i notBotched
          obtain ⟨rest, summed, rfl⟩ := last.of_bind_except
          obtain ⟨rfl, rfl⟩ := summed.of_except
          rw [if_neg notBotched]
          exact ⟨rfl, rfl⟩
      exact .settled inside settled (pool_course plain)
  · obtain ⟨reason, plan⟩ := wild_outside inside
    rw [plan] at comes
    obtain ⟨rfl, rfl⟩ := comes
    exact .turnedDown reason inside

end Courses

section InRange

variable {size : Int}

theorem greatest_sum {greatest : List UInt32} (all : ∀ face ∈ greatest, faceValue face = size) :
    (greatest.map faceValue).sum = greatest.length * size := by
  induction greatest with
  | nil => simp
  | cons face rest ih =>
      rw [List.map_cons, List.sum_cons, all face List.mem_cons_self,
        ih fun other member => all other (List.mem_cons_of_mem _ member), List.length_cons]
      push_cast
      ring

/-- Every throw but the last adds the size to the total, and the last one adds less. -/
theorem Block.total_of_in_range {first : UInt32} {block : List UInt32}
    (follows : Block size first block)
    (inRange : ∀ face ∈ first :: block, 1 ≤ faceValue face ∧ faceValue face ≤ size) :
    ¬size ∣ blockTotal first block ∧
      blockTotal first block / size + 1 = ((first :: block).length : Int) := by
  obtain ⟨throws, last, total, length, positive, less⟩ : ∃ (throws : Nat) (last : Int),
      blockTotal first block = last + throws * size ∧ (first :: block).length = throws + 1 ∧
        1 ≤ last ∧ last < size := by
    unfold Block at follows
    split at follows
    · rename_i exploded
      obtain ⟨greatest, last, rfl, all, other⟩ := follows
      obtain ⟨positive, atMost⟩ := inRange last (by simp)
      refine ⟨greatest.length + 1, faceValue last, ?_, by simp, positive,
        lt_of_le_of_ne atMost other⟩
      rw [blockTotal, exploded, List.map_append, List.sum_append, greatest_sum all]
      simp only [List.map_cons, List.map_nil, List.sum_cons, List.sum_nil]
      push_cast
      ring
    · rename_i settled
      subst follows
      obtain ⟨positive, atMost⟩ := inRange first List.mem_cons_self
      exact ⟨0, faceValue first, by simp [blockTotal], rfl, positive,
        lt_of_le_of_ne atMost settled⟩
  have sizePositive : size ≠ 0 := by omega
  constructor
  · rw [total, Int.dvd_add_left (Int.dvd_mul_left throws size)]
    intro divides
    exact absurd (Int.le_of_dvd positive divides) (Int.not_le.mpr less)
  · rw [total, Int.add_mul_ediv_right _ _ sizePositive, Int.ediv_eq_zero_of_lt (by omega) less,
      length]
    push_cast
    ring

theorem throws_of_totals {firsts : List UInt32} {blocks : List (List UInt32)}
    (follow : List.Forall₂ (Block size) firsts blocks)
    (inRange : ∀ face ∈ firsts ++ blocks.flatten, 1 ≤ faceValue face ∧ faceValue face ≤ size) :
    (∀ total ∈ List.zipWith blockTotal firsts blocks, ¬size ∣ total) ∧
      ((firsts ++ blocks.flatten).length : Int) =
        ((List.zipWith blockTotal firsts blocks).map fun total => total / size + 1).sum := by
  induction follow with
  | nil => exact ⟨nofun, rfl⟩
  | @cons first block firsts blocks own follow ih =>
      have ownRange : ∀ face ∈ first :: block, 1 ≤ faceValue face ∧ faceValue face ≤ size := by
        intro face member
        apply inRange
        rcases List.mem_cons.mp member with rfl | later
        · simp
        · simp [later]
      have laterRange : ∀ face ∈ firsts ++ blocks.flatten,
          1 ≤ faceValue face ∧ faceValue face ≤ size := by
        intro face member
        apply inRange
        rcases List.mem_append.mp member with among | later
        · simp [among]
        · rw [List.flatten_cons]
          simp [later]
      obtain ⟨notDivided, throws⟩ := own.total_of_in_range ownRange
      obtain ⟨noneDivided, later⟩ := ih laterRange
      rw [List.zipWith_cons_cons]
      constructor
      · intro total member
        rcases List.mem_cons.mp member with rfl | among
        · exact notDivided
        · exact noneDivided total among
      · rw [List.map_cons, List.sum_cons, throws, ← later]
        simp only [List.flatten_cons, List.length_append, List.length_cons]
        omega

end InRange

/-- An exploding pool gives one total for each die: its first face, drawn in the order of the dice
before anything else, and the block of throws that follow it, drawn die by die. All throws are
counted, and there are no others. With faces that lie on the die, no total is divided by the size,
and the number of throws is told by the totals. -/
theorem exploding_pool_draws {σ : Type} [Roller σ] {context : Context σ} {count size : Int}
    {pool : Pool} (settled : ((explodingPool count size).run context).result = .ok pool) :
    let drawn := (explodingPool count size).facesDrawn context
    (pool.length : Int) = count ∧
    (∃ firsts blocks, drawn = firsts ++ blocks.flatten ∧ (firsts.length : Int) = count ∧
      List.Forall₂ (Block size) firsts blocks ∧ pool = List.zipWith blockTotal firsts blocks ∧
      ((explodingPool count size).run context).context.rolls =
        min (context.rolls + (firsts.length + blocks.flatten.length)) Budget.counterLimit) ∧
    ((∀ face ∈ drawn, 1 ≤ faceValue face ∧ faceValue face ≤ size) →
      (∀ total ∈ pool, ¬size ∣ total) ∧
        (drawn.length : Int) = (pool.map fun total => total / size + 1).sum) := by
  intro drawn
  have comes := (explodingPool count size).drawn_comes_to context
  rw [settled] at comes
  obtain ⟨inside, firsts, blocks, split, all, follow, rfl⟩ := exploding_pool_given comes
  have rolls : ((explodingPool count size).run context).context.rolls =
      min (context.rolls + drawn.length) Budget.counterLimit := by
    obtain ⟨die, _, plan⟩ := exploding_pool_inside inside
    dsimp only [drawn]
    rw [plan] at settled ⊢
    exact Plan.batch_counted settled
  change drawn = _ at split
  rw [split] at rolls ⊢
  refine ⟨?_, ⟨firsts, blocks, rfl, all, follow, rfl, ?_⟩, throws_of_totals follow⟩
  · rw [List.length_zipWith, follow.length_eq, Nat.min_self, ← follow.length_eq]
    exact all
  · rw [rolls, List.length_append]

/-- Three dice with six sides, of which the first is thrown twice more and the last once. -/
theorem exploding_pool_draws_three_dice :
    let context : Context Replay := .new (.ofArray #[6, 2, 6, 6, 3, 1]) (some 10)
    let drawn := (explodingPool 3 6).facesDrawn context
    ((explodingPool 3 6).run context).result = .ok [15, 2, 7] ∧
    drawn = [6, 2, 6, 6, 3, 1] ∧
    (∃ firsts blocks, drawn = firsts ++ blocks.flatten ∧ (firsts.length : Int) = 3 ∧
      List.Forall₂ (Block 6) firsts blocks ∧ [15, 2, 7] = List.zipWith blockTotal firsts blocks ∧
      ((explodingPool 3 6).run context).context.rolls =
        min (0 + (firsts.length + blocks.flatten.length)) Budget.counterLimit) ∧
    (∀ total ∈ [15, 2, 7], ¬(6 : Int) ∣ total) ∧
    (drawn.length : Int) = ([15, 2, 7].map fun total : Int => total / 6 + 1).sum := by
  intro context drawn
  have settled : ((explodingPool 3 6).run context).result = .ok [15, 2, 7] := by decide +kernel
  have faces : drawn = [6, 2, 6, 6, 3, 1] := by decide +kernel
  obtain ⟨_, throws, told⟩ := exploding_pool_draws settled
  refine ⟨settled, faces, throws, told ?_⟩
  change ∀ face ∈ drawn, 1 ≤ faceValue face ∧ faceValue face ≤ 6
  rw [faces]
  simp [faceValue]

end DiceLang.Dice
