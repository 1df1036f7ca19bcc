import DiceLang.Proofs.DiceDomains
import DiceLang.Roller.Seeded

/-!
# Rollers that keep to their dice

A sound roller shows only faces of the die that it is asked for. Seeded rollers are sound for dice
of every size, and a replay is sound for dice that have all its faces. Each roll asks for dice of
one size only, so with a sound roller all the faces drawn lie between one and that size.
-/

namespace DiceLang

set_option autoImplicit false

variable {σ ε α β γ : Type} {size : Int}

namespace Dice

/-- The face is one of a die of that size. -/
def OnDie (size : Int) (face : UInt32) : Prop :=
  1 ≤ faceValue face ∧ faceValue face ≤ size

end Dice

open Dice

namespace Roller

variable [Roller σ]

/-- The faces of a die that is drawn again and again, each time in the given way. -/
def faces (die : Die) : List Draw → σ → List UInt32
  | [], _ => []
  | way :: ways, roller => (draw way die roller).1 :: faces die ways (draw way die roller).2

/-- However often a die of that size is drawn from the roller, it shows one of its faces. -/
def Sound (size : Int) (roller : σ) : Prop :=
  ∀ die : Die, (die.sides : Int) = size → ∀ ways, ∀ face ∈ faces die ways roller, OnDie size face

theorem Sound.draw {roller : σ} (sound : Sound size roller) (way : Draw) {die : Die}
    (sized : (die.sides : Int) = size) :
    OnDie size (Roller.draw way die roller).1 ∧ Sound size (Roller.draw way die roller).2 := by
  constructor
  · exact sound die sized [way] _ List.mem_cons_self
  · intro other alsoSized ways face member
    have same : other = die := by
      cases other
      cases die
      simp only [Die.mk.injEq]
      exact Int.ofNat.inj (alsoSized.trans sized.symm)
    subst same
    exact sound other sized (way :: ways) face (List.mem_cons_of_mem _ member)

theorem draw_batch_keeps {holds : σ → Prop} {die : Die}
    (step : ∀ way roller, holds roller → holds (draw way die roller).2) (count : Nat) {roller : σ}
    (here : holds roller) : holds (drawBatch die count roller).2 := by
  change holds (drawOnto die count [] roller).2
  generalize ([] : List UInt32) = drawn
  induction count generalizing drawn roller with
  | zero => exact here
  | succ count ih => exact ih (step .batch roller here) _

end Roller

theorem Replay.sound {replay : Replay} (onDie : ∀ index, OnDie size (replay.faces index)) :
    Roller.Sound size replay := by
  intro die _ ways
  induction ways generalizing replay with
  | nil => simp [Roller.faces]
  | cons way ways ih =>
      intro face member
      rcases List.mem_cons.mp member with rfl | later
      · exact onDie replay.drawn
      · refine ih ?_ face later
        exact onDie

theorem Die.face_on_die (die : Die) (word : UInt32) :
    OnDie die.sides (UInt32.ofNat (die.face word)) := by
  obtain ⟨positive, onDie⟩ := die.face_bounds word
  have read : (UInt32.ofNat (die.face word)).toNat = die.face word :=
    UInt32.toNat_ofNat_of_lt' (Nat.lt_of_le_of_lt onDie die.sides_lt)
  rw [OnDie, faceValue, read]
  omega

theorem Seeded.draw_within_on_die (way : Draw) (die : Die) (patience : Nat) (roller : Seeded) :
    OnDie die.sides (drawWithin way die patience roller).1 := by
  induction patience generalizing roller with
  | zero =>
      have positive : (1 : Int) ≤ die.sides := by exact_mod_cast die.sides_pos
      exact ⟨Int.le_refl 1, positive⟩
  | succ patience ih =>
      rw [drawWithin]
      split
      · exact die.face_on_die _
      · exact ih _

/-- Seeded rollers keep to their dice, also if no word were ever accepted. -/
theorem Seeded.sound (size : Int) (roller : Seeded) : Roller.Sound size roller := by
  intro die sized ways
  induction ways generalizing roller with
  | nil => simp [Roller.faces]
  | cons way ways ih =>
      intro face member
      rcases List.mem_cons.mp member with rfl | later
      · rw [← sized]
        exact draw_within_on_die way die Keystream.period roller
      · exact ih _ face later

/-- All dice that the plan may ask for have that size. -/
def Plan.Throws (size : Int) : Plan ε α → Prop
  | done _ => True
  | fail _ => True
  | rollMany die _ _ next => (die.sides : Int) = size ∧ ∀ faces, (next faces).Throws size
  | rollOne die _ next => (die.sides : Int) = size ∧ ∀ face, (next face).Throws size
  | note _ rest => rest.Throws size

namespace Plan.Throws

theorem bind {plan : Plan ε α} {next : α → Plan ε β} (here : plan.Throws size)
    (there : ∀ a, (next a).Throws size) : (plan >>= next).Throws size := by
  induction plan with
  | done a => exact there a
  | fail error => trivial
  | rollMany die count refusal k ih => exact ⟨here.1, fun faces => ih faces (here.2 faces)⟩
  | rollOne die refusal k ih => exact ⟨here.1, fun face => ih face (here.2 face)⟩
  | note event rest ih => exact ih here

theorem ofExcept_bind {given : Except ε α} {next : α → Plan ε β}
    (there : ∀ a, given = .ok a → (next a).Throws size) :
    (Plan.ofExcept given >>= next).Throws size := by
  cases given with
  | ok a => exact there a rfl
  | error error => trivial

theorem ofExcept (given : Except ε α) : (Plan.ofExcept given).Throws size := by
  cases given with
  | ok a => trivial
  | error error => trivial

theorem mapM {f : γ → Plan ε β} (each : ∀ item, (f item).Throws size) (items : List γ) :
    (items.mapM f).Throws size := by
  induction items with
  | nil => trivial
  | cons item rest ih =>
      rw [List.mapM_cons]
      exact (each item).bind fun _ => ih.bind fun _ => trivial

theorem run [Roller σ] {plan : Plan ε α} (throws : plan.Throws size) (holds : σ → Prop)
    (step : ∀ (die : Die), (die.sides : Int) = size → ∀ way roller, holds roller →
      holds (Roller.draw way die roller).2)
    {context : Context σ} (here : holds context.roller) :
    holds (plan.run context).context.roller := by
  induction plan generalizing context with
  | done a => exact here
  | fail error => exact here
  | rollMany die count refusal next ih =>
      rw [run_roll_many, Context.ask]
      split
      · exact here
      · exact ih _ (throws.2 _) (Roller.draw_batch_keeps (step die throws.1) count here)
  | rollOne die refusal next ih =>
      rw [run_roll_one, Context.ask]
      split
      · exact here
      · exact ih _ (throws.2 _) (step die throws.1 .single context.roller here)
  | note event rest ih => exact ih throws here

theorem faces_drawn [Roller σ] {plan : Plan ε α} (throws : plan.Throws size) (holds : σ → Prop)
    {shown : UInt32 → Prop}
    (step : ∀ (die : Die), (die.sides : Int) = size → ∀ way roller, holds roller →
      shown (Roller.draw way die roller).1 ∧ holds (Roller.draw way die roller).2)
    {context : Context σ} (here : holds context.roller) :
    ∀ face ∈ plan.facesDrawn context, shown face := by
  let recorded (roller : Recorded σ) : Prop :=
    holds roller.roller ∧ ∀ face ∈ roller.faces, shown face
  have recordedStep : ∀ (die : Die), (die.sides : Int) = size → ∀ way (roller : Recorded σ),
      recorded roller → recorded (Roller.draw way die roller).2 := by
    intro die sized way roller ⟨holding, before⟩
    obtain ⟨now, stillHolding⟩ := step die sized way roller.roller holding
    refine ⟨stillHolding, ?_⟩
    intro face member
    rcases List.mem_append.mp member with earlier | last
    · exact before face earlier
    · rw [List.mem_singleton.mp last]
      exact now
  have kept : recorded (plan.run context.recorded).context.roller :=
    throws.run recorded recordedStep ⟨here, List.forall_mem_nil _⟩
  exact kept.2

theorem faces_on_die [Roller σ] {plan : Plan ε α} (throws : plan.Throws size)
    {context : Context σ} (sound : Roller.Sound size context.roller) :
    ∀ face ∈ plan.facesDrawn context, OnDie size face :=
  throws.faces_drawn (Roller.Sound size) (fun _ sized way _ stillSound => stillSound.draw way sized)
    sound

end Plan.Throws

namespace Dice

open Plan (Throws)

theorem pool_throws (count size : Int) : (pool count size).Throws size := by
  apply Throws.ofExcept_bind
  intro number _
  apply Throws.ofExcept_bind
  intro die sized
  exact ⟨sides_of_size sized, fun faces => trivial⟩

theorem explode_throws (die : Die) (total : Int) : (explode die total).Throws die.sides := by
  induction total using explode.induct die with
  | case1 total ih =>
      rw [explode]
      refine ⟨rfl, fun face => ?_⟩
      dsimp only
      split
      · rename_i fits
        split
        · rename_i greatest
          exact ih face fits greatest
        · trivial
      · trivial

theorem settle_throws (die : Die) (first : Int) : (settle die first).Throws die.sides := by
  unfold settle
  split
  · exact explode_throws die first
  · trivial

theorem exploding_pool_throws (count size : Int) : (explodingPool count size).Throws size := by
  unfold explodingPool
  split
  · trivial
  · apply Throws.ofExcept_bind
    intro die sized
    apply (pool_throws count size).bind
    intro first
    have settling := Throws.mapM (settle_throws die) first
    rw [sides_of_size sized] at settling
    exact settling.bind fun _ => trivial

theorem exploding_total_throws (count size : Int) : (explodingTotal count size).Throws size :=
  (exploding_pool_throws count size).bind fun _ => .ofExcept _

theorem wild_throws (count size : Int) : (wild count size).Throws size := by
  unfold wild
  split
  · trivial
  · apply (exploding_total_throws 1 size).bind
    intro wild
    apply (pool_throws (count - 1) size).bind
    intro regular
    split
    · trivial
    · exact Throws.ofExcept_bind fun _ _ => .ofExcept _

end Dice

theorem DiceRoll.apply_throws (op : DiceRoll) (count size : Int) :
    (op.apply count size).Throws size := by
  cases op with
  | total => exact (pool_throws count size).bind fun _ => .ofExcept _
  | exploding => exact exploding_total_throws count size
  | highest =>
      apply (pool_throws count size).bind
      intro pool
      split <;> trivial
  | lowest =>
      apply (pool_throws count size).bind
      intro pool
      split <;> trivial
  | wild => exact wild_throws count size
  | concatenated =>
      apply (pool_throws count size).bind
      intro pool
      exact Plan.Throws.ofExcept_bind fun _ _ => .ofExcept _

end DiceLang
