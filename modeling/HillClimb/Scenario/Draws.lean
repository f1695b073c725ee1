import HillClimb.Random.Generator
import HillClimb.Value.Conversion

set_option autoImplicit false

/-! # Draws on request

`DrawRequest.answer` asks a `Generator` for draws whose bounds are values of any kind. A count must
be an integer as it stands. The bounds of a range of integers may also be turned into integers if
nothing is lost by that (`DrawRequest.whole`), and they are looked at in order, so the first wrong
one is refused. -/

namespace HillClimb.Scenario

/-- What is asked of a generator: a call of one of its methods. -/
inductive DrawRequest where
  | random
  | bits (count : Value)
  /-- An integer between two bounds, both included. -/
  | between (low high : Value)
  /-- An integer from one bound on and below another, in steps, as of `randrange`. Without the
      second bound, which is then nothing, the first one is the end of a range from zero on. -/
  | inRange (start stop : Value) (step : Option Value)
  | uniform (low high : Value)
  /-- The numbers below a bound in a random order. -/
  | shuffle (count : Value)
  | choice (count : Value)
  /-- So many fractions that nobody wants. -/
  | skip (count : Value)
  /-- A draw of a name that there is not. -/
  | unknown (name : String)

namespace DrawRequest

/-- Draws fractions and forgets them. -/
def skipFractions : Nat → Draw Unit
  | 0 => return
  | count + 1 => do
    let _ ← Generator.random
    skipFractions count

/-- The integer that a bound is; `Failure.notWhole` names the bound that is none. -/
def whole (bound : Bound) (v : Value) : Except Failure Int := do
  match v.integer? with
  | some n => return n
  | none =>
    let n ← v.toInteger
    if !(Value.int n).equal v then throw (.notWhole bound)
    return n

/-- A draw of `Generator.stepping` from a range whose bounds are values. -/
def drawInRange (start stop : Value) (step : Option Value) : Draw Value := do
  let first ← Generator.ofExcept (whole .start start)
  match stop, step with
  | .none, none => return .int (← Generator.below first)
  | .none, some (.int 1) => return .int (← Generator.below first)
  | .none, some _ => throw .noStop
  | stop, step =>
    let last ← Generator.ofExcept (whole .stop stop)
    let step ← Generator.ofExcept (whole .step (step.getD (.int 1)))
    Generator.stepping first last step

/-- The answer to a request. -/
def answer : DrawRequest → Draw Value
  | .random => Generator.random
  | .bits count => do return .int (← Generator.bits (← Generator.ofExcept count.toIndex))
  | .between low high => do drawInRange low (← Generator.ofExcept (high.plus (.int 1))) none
  | .inRange start stop step => drawInRange start stop step
  | .uniform low high => Generator.uniform low high
  | .shuffle count => do
    let order ← Generator.arrangement (← Generator.ofExcept count.toIndex)
    return .tuple (order.toList.map fun (n : Nat) => .int n)
  | .choice count => do return .int (← Generator.choice (← Generator.ofExcept count.toIndex))
  | .skip count => do
    skipFractions (← Generator.ofExcept count.toIndex).toNat
    return .none
  | .unknown name => throw (.lacks "Random" name)

/-- The answers to requests, in order. -/
def answerAll (g : Generator) : List DrawRequest → List (Except Failure Value)
  | [] => []
  | request :: rest =>
    let (answer, g) := request.answer.run g
    answer :: answerAll g rest

end DrawRequest

end HillClimb.Scenario
