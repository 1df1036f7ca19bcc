import DiceLang.DiceMap
import DiceLang.Plan

/-!
# Contexts

A context is what rolls share: the roller, a budget of dice, and the dice maps registered so far.
Its limit may be changed (`set_max_rolls`, `with_max_rolls`) and its count of dice starts anew with
every list that is evaluated (`reset_rolls`). Dice are charged to the budget (`spend`) before any of
them is drawn, by `roll` for a batch and by `roll_one` for a single die; a charge that passes the
limit is recorded all the same, but no die of it is drawn.
-/

namespace DiceLang

set_option autoImplicit false

structure Budget where
  limit : Option Nat
  spent : Nat
  deriving DecidableEq, Repr

namespace Budget

/-- The counter stops here. -/
def counterLimit : Nat := 0xffffffffffffffff

def charge (budget : Budget) (count : Nat) : Budget :=
  { budget with spent := min (budget.spent + count) counterLimit }

def isOverdrawn (budget : Budget) : Bool :=
  match budget.limit with
  | none => false
  | some limit => limit < budget.spent

end Budget

structure Context (σ : Type) where
  roller : σ
  budget : Budget
  maps : DiceMaps

/-- What a computation leaves behind: its result, the context it ends in, and its log. -/
structure Outcome (σ ε α : Type) where
  result : Except ε α
  context : Context σ
  events : List Event

namespace Outcome

variable {σ ε α β : Type}

/-- Puts earlier events in front of the log. -/
def after (outcome : Outcome σ ε α) (earlier : List Event) : Outcome σ ε α :=
  { outcome with events := earlier ++ outcome.events }

def map (f : α → β) (outcome : Outcome σ ε α) : Outcome σ ε β :=
  ⟨outcome.result.map f, outcome.context, outcome.events⟩

end Outcome

namespace Context

variable {σ : Type}

def new (roller : σ) (limit : Option Nat) : Context σ :=
  ⟨roller, ⟨limit, 0⟩, .empty⟩

def rolls (context : Context σ) : Nat :=
  context.budget.spent

def limit (context : Context σ) : Option Nat :=
  context.budget.limit

def setLimit (context : Context σ) (limit : Option Nat) : Context σ :=
  { context with budget.limit := limit }

def resetRolls (context : Context σ) : Context σ :=
  { context with budget.spent := 0 }

def clearMaps (context : Context σ) : Context σ :=
  { context with maps := .empty }

/-- Registers a dice map and gives the map that it replaces. -/
def register {ε : Type} (context : Context σ) (name : String) (map : DiceMap) :
    Outcome σ ε (Option DiceMap) :=
  ⟨.ok (context.maps.get? name), { context with maps := context.maps.register name map },
    [.registered name map.size]⟩

variable [Roller σ]

/-- Charges `count` dice and draws the first `taken` of them, or none if the charge is refused. -/
def rollFirst (context : Context σ) (die : Die) (count taken : Nat) :
    Option (List UInt32) × Context σ :=
  let budget := context.budget.charge count
  if budget.isOverdrawn then (none, { context with budget })
  else
    let (faces, roller) := Roller.drawBatch die (min count taken) context.roller
    (some faces, { context with budget, roller })

/-- Charges one die and draws it singly. -/
def rollOne (context : Context σ) (die : Die) : Option UInt32 × Context σ :=
  let budget := context.budget.charge 1
  if budget.isOverdrawn then (none, { context with budget })
  else
    let (face, roller) := Roller.draw .single die context.roller
    (some face, { context with budget, roller })

end Context

namespace Plan

variable {σ ε α : Type} [Roller σ]

/-- Carries a plan out in a context. -/
def run : Plan ε α → Context σ → Outcome σ ε α
  | done a, context => ⟨.ok a, context, []⟩
  | fail e, context => ⟨.error e, context, []⟩
  | rollMany die count refusal next, context =>
      match context.rollFirst die count count with
      | (some faces, context) => (next faces).run context
      | (none, context) => ⟨.error refusal, context, []⟩
  | rollOne die refusal next, context =>
      match context.rollOne die with
      | (some face, context) => (next face).run context
      | (none, context) => ⟨.error refusal, context, []⟩
  | note event rest, context =>
      (rest.run context).after [event]

theorem run_bind {β : Type} (plan : Plan ε α) (next : α → Plan ε β) (context : Context σ) :
    (plan >>= next).run context =
      match (plan.run context).result with
      | .ok a => ((next a).run (plan.run context).context).after (plan.run context).events
      | .error e => ⟨.error e, (plan.run context).context, (plan.run context).events⟩ := by
  induction plan generalizing context with
  | done a => simp [run, Outcome.after]
  | fail e => simp [run]
  | rollMany die count refusal k ih =>
      simp only [rollMany_bind, run]
      split
      · exact ih _ _
      · simp
  | rollOne die refusal k ih =>
      simp only [rollOne_bind, run]
      split
      · exact ih _ _
      · simp
  | note event rest ih =>
      simp only [note_bind, run, ih, Outcome.after]
      cases (rest.run context).result <;> simp

end Plan

end DiceLang
