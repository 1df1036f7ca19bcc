import DiceLang.Context
import DiceLang.Expr.Eval
import DiceLang.Reading

/-!
# Sessions

A session is a context in which lists of tokens are evaluated one after the other (`parse`). The
rolls of a list are performed in order: a dice map is registered, as by `register_map`, and serves
every later roll, of this list and of the lists to come, and an expression is evaluated. A failure
ends the list; what the rolls before it did stays done.
-/

namespace DiceLang

set_option autoImplicit false

/-- No results are nothing, one stands for itself, several are taken together. -/
def Value.gather : List Value → Option Value
  | [] => none
  | [value] => some value
  | values => some (.compound values)

namespace Context

variable {σ : Type} [Roller σ]

/-- Performs rolls, of which the next one with a value is counted as `index` in the log, and gives
the values of the expressions among them. -/
def performRolls : List Roll → Nat → Context σ → Outcome σ ReadError (List Value)
  | [], _, context => ⟨.ok [], context, []⟩
  | .diceMap name map :: rest, index, context =>
      let registered : Outcome σ ReadError (Option DiceMap) := context.register name map
      (performRolls rest index registered.context).after registered.events
  | .expression expr :: rest, index, context =>
      let outcome := (expr.eval context.maps).run context
      match outcome.result with
      | .error error => ⟨.error error, outcome.context, outcome.events⟩
      | .ok value =>
          ((performRolls rest (index + 1) outcome.context).map (value :: ·)).after
            (outcome.events ++ [.finished index value])

/-- Performs the rolls of a reading and then reports its fault, if it has one. -/
def perform (context : Context σ) (reading : Reading) : Outcome σ ReadError (List Value) :=
  let outcome := performRolls reading.rolls 0 context
  match reading.fault with
  | none => outcome
  | some fault => { outcome with result := outcome.result.bind fun _ => .error fault }

/-- Evaluates a list of tokens. The count of rolled dice starts anew, except for an empty list,
which is refused before anything else happens. -/
def evaluate (context : Context σ) (tokens : List Token) :
    Outcome σ ReadError (Option Value) :=
  if tokens.isEmpty then ⟨.error ⟨.emptyStream, .beforeStart, 0⟩, context, []⟩
  else (context.resetRolls.perform (.ofTokens tokens)).map Value.gather

end Context

end DiceLang
