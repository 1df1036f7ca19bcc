import DiceLang.Proofs.DiceDrawn
import Mathlib.Data.List.Forall2

/-!
# The courses that a plan can take

A plan may come to a result, it may fail, and wherever it asks for dice it may be refused. Which
ends go with which faces can be told from the plan alone. Whatever the roller and the budget are,
carrying the plan out is one of its courses, namely the one of the faces that the roller draws.
Only a limit that has been passed refuses dice, a limit bounds the dice that are drawn on the way,
and if the plan comes to a result all of them have been counted.
-/

namespace DiceLang

set_option autoImplicit false

variable {σ ε α β γ : Type}

/-- With these faces for the dice that it gets, in order and none left over, the plan comes to
this end. -/
def Plan.ComesTo : Plan ε α → List UInt32 → Except ε α → Prop
  | done given, faces, result => faces = [] ∧ result = .ok given
  | fail error, faces, result => faces = [] ∧ result = .error error
  | rollMany _ count refusal next, faces, result =>
      (faces = [] ∧ result = .error refusal) ∨
        ∃ batch later, faces = batch ++ later ∧ batch.length = count ∧
          (next batch).ComesTo later result
  | rollOne _ refusal next, faces, result =>
      (faces = [] ∧ result = .error refusal) ∨
        ∃ face later, faces = face :: later ∧ (next face).ComesTo later result
  | note _ rest, faces, result => rest.ComesTo faces result

namespace Plan.ComesTo

theorem of_bind {plan : Plan ε α} {next : α → Plan ε β} {faces : List UInt32}
    {result : Except ε β} (comes : (plan >>= next).ComesTo faces result) :
    (∃ error, plan.ComesTo faces (.error error) ∧ result = .error error) ∨
      ∃ first second a, faces = first ++ second ∧ plan.ComesTo first (.ok a) ∧
        (next a).ComesTo second result := by
  induction plan generalizing faces with
  | done a => exact .inr ⟨[], faces, a, rfl, ⟨rfl, rfl⟩, comes⟩
  | fail error => exact .inl ⟨error, ⟨comes.1, rfl⟩, comes.2⟩
  | rollMany die count refusal k ih =>
      rcases comes with ⟨none, refused⟩ | ⟨batch, later, rfl, all, comes⟩
      · exact .inl ⟨refusal, .inl ⟨none, rfl⟩, refused⟩
      · rcases ih batch comes with ⟨error, broken, rfl⟩ | ⟨first, second, a, rfl, here, there⟩
        · exact .inl ⟨error, .inr ⟨batch, later, rfl, all, broken⟩, rfl⟩
        · exact .inr ⟨batch ++ first, second, a, (List.append_assoc _ _ _).symm,
            .inr ⟨batch, first, rfl, all, here⟩, there⟩
  | rollOne die refusal k ih =>
      rcases comes with ⟨none, refused⟩ | ⟨face, later, rfl, comes⟩
      · exact .inl ⟨refusal, .inl ⟨none, rfl⟩, refused⟩
      · rcases ih face comes with ⟨error, broken, rfl⟩ | ⟨first, second, a, rfl, here, there⟩
        · exact .inl ⟨error, .inr ⟨face, later, rfl, broken⟩, rfl⟩
        · exact .inr ⟨face :: first, second, a, rfl, .inr ⟨face, first, rfl, here⟩, there⟩
  | note event rest ih => exact ih comes

theorem of_except {given result : Except ε α} {faces : List UInt32}
    (comes : (Plan.ofExcept given).ComesTo faces result) : faces = [] ∧ result = given := by
  cases given with
  | ok a => exact comes
  | error error => exact comes

theorem of_diceless {plan : Plan ε α} (diceless : plan.Diceless) {faces : List UInt32}
    {result : Except ε α} (comes : plan.ComesTo faces result) : faces = [] := by
  induction plan with
  | done a => exact comes.1
  | fail error => exact comes.1
  | rollMany die count refusal next ih => exact diceless.elim
  | rollOne die refusal next ih => exact diceless.elim
  | note event rest ih => exact ih diceless comes

theorem of_bind_known {plan : Plan ε α} {next : α → Plan ε β} {f : α → Except ε β}
    {faces : List UInt32} {result : Except ε β} (comes : (plan >>= next).ComesTo faces result)
    (known : ∀ {a faces result}, (next a).ComesTo faces result → faces = [] ∧ result = f a) :
    ∃ given, plan.ComesTo faces given ∧ result = given.bind f := by
  rcases comes.of_bind with ⟨error, broken, rfl⟩ | ⟨first, second, a, rfl, here, there⟩
  · exact ⟨.error error, broken, rfl⟩
  · obtain ⟨rfl, rfl⟩ := known there
    refine ⟨.ok a, ?_, rfl⟩
    rw [List.append_nil]
    exact here

theorem of_bind_except {plan : Plan ε α} {f : α → Except ε β} {faces : List UInt32}
    {result : Except ε β} (comes : (plan >>= fun a => Plan.ofExcept (f a)).ComesTo faces result) :
    ∃ given, plan.ComesTo faces given ∧ result = given.bind f :=
  comes.of_bind_known of_except

/-- Plans that are carried out one after the other are answered by one block of faces each. Either
all of them give a result, or one breaks off and with it the whole. -/
theorem of_mapM {f : γ → Plan ε β} {follows : γ → List UInt32 → Prop}
    {value : γ → List UInt32 → β}
    (each : ∀ {item block b}, (f item).ComesTo block (.ok b) →
      follows item block ∧ b = value item block)
    {items : List γ} {faces : List UInt32} {result : Except ε (List β)}
    (comes : (items.mapM f).ComesTo faces result) :
    (∃ blocks, faces = blocks.flatten ∧ List.Forall₂ follows items blocks ∧
      result = .ok (List.zipWith value items blocks)) ∨
    ∃ front item rest blocks block error, items = front ++ item :: rest ∧
      faces = blocks.flatten ++ block ∧ List.Forall₂ follows front blocks ∧
      (f item).ComesTo block (.error error) ∧ result = .error error := by
  induction items generalizing faces result with
  | nil => exact .inl ⟨[], comes.1, .nil, comes.2⟩
  | cons item rest ih =>
      rw [List.mapM_cons] at comes
      rcases comes.of_bind with ⟨error, broken, rfl⟩ | ⟨first, second, b, rfl, here, later⟩
      · exact .inr ⟨[], item, rest, [], faces, error, rfl, rfl, .nil, broken, rfl⟩
      · obtain ⟨own, rfl⟩ := each here
        obtain ⟨given, there, rfl⟩ :=
          later.of_bind_known (f := fun bs => Except.ok (value item first :: bs)) fun last => last
        rcases ih there with ⟨blocks, rfl, follow, rfl⟩ |
          ⟨front, other, others, blocks, block, error, rfl, rfl, follow, stopped, rfl⟩
        · exact .inl ⟨first :: blocks, List.flatten_cons.symm, .cons own follow, rfl⟩
        · refine .inr ⟨item :: front, other, others, first :: blocks, block, error, rfl, ?_,
            .cons own follow, stopped, rfl⟩
          rw [List.flatten_cons, List.append_assoc]

theorem error_allowed {refusals failures : ε → Prop} {plan : Plan ε α} {faces : List UInt32}
    {error : ε} (comes : plan.ComesTo faces (.error error))
    (errors : plan.ErrorsIn refusals failures) : refusals error ∨ failures error := by
  induction plan generalizing faces with
  | done a => simp [ComesTo] at comes
  | fail failure =>
      cases comes.2
      exact .inr errors
  | rollMany die count refusal next ih =>
      rcases comes with ⟨_, refused⟩ | ⟨batch, later, _, _, comes⟩
      · cases refused
        exact .inl errors.1
      · exact ih batch comes (errors.2 batch)
  | rollOne die refusal next ih =>
      rcases comes with ⟨_, refused⟩ | ⟨face, later, _, comes⟩
      · cases refused
        exact .inl errors.1
      · exact ih face comes (errors.2 face)
  | note event rest ih => exact ih comes errors

end Plan.ComesTo

namespace Recorded

variable [Roller σ]

theorem roller_draws_alike : DrawsAlike (Recorded.roller : Recorded σ → σ) :=
  fun _ _ _ => rfl

theorem draw_onto_faces (die : Die) (count : Nat) (drawn : List UInt32) (recorded : Recorded σ) :
    ∃ fresh, (Roller.drawOnto die count drawn recorded).1 = fresh.reverse ++ drawn ∧
      (Roller.drawOnto die count drawn recorded).2.faces = recorded.faces ++ fresh := by
  induction count generalizing drawn recorded with
  | zero => exact ⟨[], rfl, (List.append_nil _).symm⟩
  | succ count ih =>
      let face := (Roller.draw .batch die recorded).1
      obtain ⟨fresh, reversed, later⟩ := ih (face :: drawn) (Roller.draw .batch die recorded).2
      refine ⟨face :: fresh, reversed.trans ?_, later.trans ?_⟩
      · rw [List.reverse_cons, List.append_assoc, List.singleton_append]
      · exact List.append_assoc _ [face] fresh

theorem draw_batch_faces (die : Die) (count : Nat) (recorded : Recorded σ) :
    (Roller.drawBatch die count recorded).2.faces =
      recorded.faces ++ (Roller.drawBatch die count recorded).1 := by
  obtain ⟨fresh, reversed, later⟩ := draw_onto_faces die count [] recorded
  have batch : (Roller.drawBatch die count recorded).1 = fresh := by
    change (Roller.drawOnto die count [] recorded).1.reverse = fresh
    rw [reversed, List.append_nil, List.reverse_reverse]
  rw [batch]
  exact later

end Recorded

/-- From the context on, just these faces were recorded. They are no more than a limit still
allowed, and all of them are on the counter if there is a result. -/
structure Outcome.Draws (outcome : Outcome (Recorded σ) ε α) (context : Context (Recorded σ))
    (faces : List UInt32) : Prop where
  recorded : outcome.context.roller.faces = context.roller.faces ++ faces
  covered : ∀ limit, context.limit = some limit → limit < Budget.counterLimit →
    faces.length ≤ limit - context.rolls
  counted : ∀ a, outcome.result = .ok a → context.rolls ≤ Budget.counterLimit →
    outcome.context.rolls = min (context.rolls + faces.length) Budget.counterLimit

namespace Outcome.Draws

variable {outcome : Outcome (Recorded σ) ε α} {context : Context (Recorded σ)}

theorem none (same : outcome.context = context) : outcome.Draws context [] := by
  constructor
  · rw [same, List.append_nil]
  · intro limit _ _
    exact Nat.zero_le _
  · intro a _ bounded
    rw [same]
    exact (Nat.min_eq_left bounded).symm

theorem refused {count : Nat} {error : ε} :
    (⟨.error error, context.charge count, []⟩ : Outcome (Recorded σ) ε α).Draws context [] := by
  refine ⟨(List.append_nil _).symm, ?_, nofun⟩
  intro limit _ _
  exact Nat.zero_le _

variable {count : Nat} {roller : Recorded σ} {fresh later : List UInt32}

/-- The charge itself keeps the counter within its end, so nothing need be known of it before. -/
theorem counted_of_granted (all : fresh.length = count)
    (draws : outcome.Draws ((context.charge count).withRoller roller) later) {a : α}
    (given : outcome.result = .ok a) :
    outcome.context.rolls =
      min (context.rolls + (fresh ++ later).length) Budget.counterLimit := by
  have charged : ((context.charge count).withRoller roller).rolls =
      min (context.rolls + count) Budget.counterLimit := rfl
  have onward := draws.counted a given (charged ▸ Nat.min_le_right _ _)
  rw [List.length_append, all]
  omega

theorem of_granted (granted : ¬(context.budget.charge count).isOverdrawn = true)
    (all : fresh.length = count) (drawn : roller.faces = context.roller.faces ++ fresh)
    (draws : outcome.Draws ((context.charge count).withRoller roller) later) :
    outcome.Draws context (fresh ++ later) := by
  refine ⟨?_, ?_, fun a given _ => draws.counted_of_granted all given⟩
  · rw [draws.recorded, ← List.append_assoc, ← drawn]
    rfl
  · intro limit limited below
    have onward := draws.covered limit limited below
    have charged : ((context.charge count).withRoller roller).rolls =
        min (context.rolls + count) Budget.counterLimit := rfl
    have within : min (context.rolls + count) Budget.counterLimit ≤ limit := by
      apply Nat.le_of_not_lt
      intro passed
      exact granted ((Budget.is_overdrawn_iff _).mpr ⟨limit, limited, passed⟩)
    rw [List.length_append, all]
    omega

end Outcome.Draws

section Carrying

variable [Roller σ]

/-- Carried out with a recorded roller, a plan takes the course of the faces that are recorded. -/
theorem Plan.run_comes_to (plan : Plan ε α) (context : Context (Recorded σ)) :
    ∃ faces, plan.ComesTo faces (plan.run context).result ∧
      (plan.run context).Draws context faces := by
  induction plan generalizing context with
  | done a => exact ⟨[], ⟨rfl, rfl⟩, .none rfl⟩
  | fail error => exact ⟨[], ⟨rfl, rfl⟩, .none rfl⟩
  | rollMany die count refusal next ih =>
      rw [run_roll_many, Context.ask]
      split
      · exact ⟨[], .inl ⟨rfl, rfl⟩, .refused⟩
      · rename_i granted
        have all := Roller.drawBatch_length die count context.roller
        obtain ⟨later, comes, draws⟩ := ih (Roller.drawBatch die count context.roller).1
          ((context.charge count).withRoller (Roller.drawBatch die count context.roller).2)
        exact ⟨_ ++ later, .inr ⟨_, later, rfl, all, comes⟩,
          draws.of_granted granted all (Recorded.draw_batch_faces die count context.roller)⟩
  | rollOne die refusal next ih =>
      rw [run_roll_one, Context.ask]
      split
      · exact ⟨[], .inl ⟨rfl, rfl⟩, .refused⟩
      · rename_i granted
        obtain ⟨later, comes, draws⟩ := ih (Roller.draw .single die context.roller).1
          ((context.charge 1).withRoller (Roller.draw .single die context.roller).2)
        exact ⟨[_] ++ later, .inr ⟨_, later, rfl, comes⟩, draws.of_granted granted rfl rfl⟩
  | note event rest ih =>
      obtain ⟨faces, comes, draws⟩ := ih context
      exact ⟨faces, comes, draws.recorded, draws.covered, draws.counted⟩

/-- The same context with a roller that has recorded nothing yet. -/
def Context.recorded (context : Context σ) : Context (Recorded σ) :=
  context.withRoller ⟨context.roller, []⟩

/-- The faces that the roller draws, in order, while the plan is carried out. -/
def Plan.facesDrawn (plan : Plan ε α) (context : Context σ) : List UInt32 :=
  (plan.run context.recorded).context.roller.faces

theorem Plan.run_recorded (plan : Plan ε α) (context : Context σ) :
    (plan.run context.recorded).mapRoller Recorded.roller = plan.run context :=
  (plan.run_map_roller Recorded.roller_draws_alike context.recorded).symm

theorem Plan.drawn_comes_to (plan : Plan ε α) (context : Context σ) :
    plan.ComesTo (plan.facesDrawn context) (plan.run context).result := by
  obtain ⟨faces, comes, draws⟩ := plan.run_comes_to context.recorded
  have drawn : plan.facesDrawn context = faces := draws.recorded
  rw [drawn, ← plan.run_recorded context]
  exact comes

/-- A limit below the end of the counter bounds the dice drawn, whatever was charged before. -/
theorem Plan.faces_drawn_le_limit (plan : Plan ε α) {context : Context σ} {limit : Nat}
    (limited : context.limit = some limit) (below : limit < Budget.counterLimit) :
    (plan.facesDrawn context).length ≤ limit - context.rolls := by
  obtain ⟨faces, _, draws⟩ := plan.run_comes_to context.recorded
  have drawn : plan.facesDrawn context = faces := draws.recorded
  rw [drawn]
  exact draws.covered limit limited below

theorem Plan.batch_counted {die : Die} {count : Nat} {refusal : ε}
    {next : List UInt32 → Plan ε α} {context : Context σ} {a : α}
    (given : ((rollMany die count refusal next).run context).result = .ok a) :
    ((rollMany die count refusal next).run context).context.rolls =
      min (context.rolls + ((rollMany die count refusal next).facesDrawn context).length)
        Budget.counterLimit := by
  rw [← run_recorded] at given ⊢
  change ((rollMany die count refusal next).run context.recorded).result = .ok a at given
  change ((rollMany die count refusal next).run context.recorded).context.rolls = _
  rw [facesDrawn]
  rw [run_roll_many, Context.ask] at given ⊢
  split at given
  · cases given
  · rename_i granted
    rw [if_neg granted]
    have all := Roller.drawBatch_length die count context.recorded.roller
    obtain ⟨later, _, draws⟩ :=
      (next (Roller.drawBatch die count context.recorded.roller).1).run_comes_to
        ((context.recorded.charge count).withRoller
          (Roller.drawBatch die count context.recorded.roller).2)
    have drawn := (draws.of_granted granted all
      (Recorded.draw_batch_faces die count context.recorded.roller)).recorded
    rw [drawn]
    exact draws.counted_of_granted all given

/-- An error that the plan does not fail with by itself tells that a limit has been passed. -/
theorem Plan.passed_limit_of_error {refusals failures : ε → Prop} {plan : Plan ε α}
    (errors : plan.ErrorsIn refusals failures) {context : Context σ} {error : ε}
    (failed : (plan.run context).result = .error error) (notOwn : ¬failures error) :
    ∃ limit, context.limit = some limit ∧ limit < (plan.run context).context.rolls := by
  induction plan generalizing context with
  | done a => cases failed
  | fail own =>
      cases failed
      exact absurd errors notOwn
  | rollMany die count refusal next ih =>
      rw [run_roll_many, Context.ask] at failed ⊢
      split at failed
      · rename_i overdrawn
        rw [if_pos overdrawn]
        exact (Budget.is_overdrawn_iff _).mp overdrawn
      · rename_i granted
        rw [if_neg granted]
        exact ih _ (errors.2 _) failed
  | rollOne die refusal next ih =>
      rw [run_roll_one, Context.ask] at failed ⊢
      split at failed
      · rename_i overdrawn
        rw [if_pos overdrawn]
        exact (Budget.is_overdrawn_iff _).mp overdrawn
      · rename_i granted
        rw [if_neg granted]
        exact ih _ (errors.2 _) failed
  | note event rest ih => exact ih errors failed

end Carrying

end DiceLang
