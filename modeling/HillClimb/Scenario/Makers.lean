import HillClimb.Scenario.World
import HillClimb.Solver.LocalSearch

set_option autoImplicit false

/-! # Factories of a scenario

`FactorySpec.build` makes the `Factory` of a description. A factory follows a script, walks at
random through costs, flips bits, or swaps the places of an arrangement. The last two change a list
of numbers, whichever of them made it, and draw before they look at the list. The initial solutions
of a factory are labelled `i0`, `i1`, … and its neighbours `n0`, `n1`, …, and a call that fails is
counted too. -/

namespace HillClimb.Scenario

/-- An entry of a script. -/
inductive ScriptEntry where
  | failure (cause : Failure)
  /-- The current item itself, or nothing if there is none. -/
  | same
  /-- An item that costs so much more than the current one. -/
  | delta (amount : Value) (label : Option String)
  | fresh (spec : ItemSpec)

/-- What factory there is to be; each kind makes its items by a hook of its own. -/
inductive FactorySpec where
  | script (initials neighbors : Array ScriptEntry)
  /-- Costs are integers: the first one lies in a range, and each step goes a bounded way. -/
  | walk (low high reach : Int)
  /-- Costs are fractions: the first lies between zero and one, and a step goes at most one half
      up or down. -/
  | drift
  /-- Items are made of bits, the cost is the number of zeros, a step flips a bit. -/
  | bits (count : Int)
  /-- Items are arrangements, the cost is the weighted way from place to place, a step swaps two
      places. -/
  | arrangement (count : Int)

namespace FactorySpec

/-- The current item, without which its property cannot be had. -/
def requireCurrent (property : String) (current : Option Product) : ScenarioHook Item :=
  match current.join with
  | some item => return item
  | none => throw (.absent property)

/-- The sum of two values, by `Value.plus`. -/
def sum (x y : Value) : ScenarioHook Value := Hook.ofExcept (x.plus y)

/-! ## Scripts -/

/-- The item of an entry of a script. -/
def follow (entry : Option ScriptEntry) (current : Option Product) (label : String) :
    ScenarioHook Product :=
  match entry with
  | none => throw .scriptExhausted
  | some (.failure cause) => throw cause
  | some .same => return current.join
  | some (.delta amount own) => do
    let item ← requireCurrent "value" current
    newItem { amount := ← sum item.amount amount, label := own } label
  | some (.fresh spec) => newItem spec label

/-! ## Lists of numbers -/

/-- The numbers that the current item is made of, if it is made of any. -/
def requireNumbers (current : Option Product) : ScenarioHook (Array Int) := do
  match (← requireCurrent "data" current).content with
  | .listed numbers => return numbers
  | .plain => throw (.lacks "Sol" "data")

/-- A place below a bound, drawn as a value. -/
def drawPlace (generator : GeneratorId) (bound : Int) : ScenarioHook Value :=
  Hook.draw generator (Generator.between 0 (bound - 1))

/-! ## Bits -/

/-- An item made of bits, which costs as much as there are zeros. -/
def bitsSpec (bits : Array Int) : ItemSpec :=
  { amount := .int (bits.toList.count 0), content := .listed bits }

/-- So many random bits, in order. -/
def drawBits (generator : GeneratorId) : Nat → Array Int → ScenarioHook (Array Int)
  | 0, drawn => return drawn
  | count + 1, drawn => do
    let bit ← Hook.draw generator (Generator.bits 1)
    drawBits generator count (drawn.push bit)

/-- A number with its last bit turned over. -/
def flipped (n : Int) : Int := if n % 2 = 0 then n + 1 else n - 1

/-- The numbers with the one turned over whose place equals a value. There need not be one. -/
def flippedAt (numbers : Array Int) (place : Value) : Array Int :=
  match place.equalInteger? with
  | some (.ofNat place) => numbers.modify place flipped
  | _ => numbers

/-! ## Arrangements -/

/-- The way from each place to the next, weighted by the number of the place. -/
def wayFrom : Nat → List Int → Int
  | weight, p :: q :: rest => weight * (p - q).natAbs + wayFrom (weight + 1) (q :: rest)
  | _, _ => 0

/-- An item made of an arrangement. -/
def arrangementSpec (places : Array Int) : ItemSpec :=
  { amount := .int (wayFrom 1 places.toList), content := .listed places }

/-! ## Building -/

/-- A new initial item. -/
def initial (spec : FactorySpec) (count : Nat) (label : String) (generator : GeneratorId) :
    ScenarioHook Product :=
  match spec with
  | .script initials _ => follow initials[count]? none label
  | .walk low high _ => do
    newItem (.costing (← Hook.draw generator (Generator.between low high))) label
  | .drift => do newItem (.costing (← Hook.draw generator Generator.random)) label
  | .bits count => do newItem (bitsSpec (← drawBits generator count.toNat #[])) label
  | .arrangement count => do
    let places ← Hook.draw generator (Generator.arrangement count)
    newItem (arrangementSpec (places.map fun (place : Nat) => place)) label

/-- A new neighbour of the current item. -/
def neighbor (spec : FactorySpec) (count : Nat) (label : String) (current : Option Product)
    (generator : GeneratorId) : ScenarioHook Product :=
  match spec with
  | .script _ neighbors => follow neighbors[count]? current label
  | .walk _ _ reach => do
    let item ← requireCurrent "value" current
    let way ← Hook.draw generator (Generator.between (-reach) reach)
    newItem (.costing (← sum item.amount way)) label
  | .drift => do
    let item ← requireCurrent "value" current
    let drawn ← Hook.draw generator Generator.random
    let way ← Hook.ofExcept (drawn.minus (.real (Binary64.ofRatio 1 2)))
    newItem (.costing (← sum item.amount way)) label
  | .bits count => do
    let place ← drawPlace generator count
    newItem (bitsSpec (flippedAt (← requireNumbers current) place)) label
  | .arrangement count => do
    let i ← drawPlace generator count
    let j ← drawPlace generator count
    let places ← requireNumbers current
    let j ← Hook.ofExcept ((Figure.ofValue j).place places.size)
    let i ← Hook.ofExcept ((Figure.ofValue i).place places.size)
    newItem (arrangementSpec (places.swapIfInBounds i j)) label

/-- Counts a call of a factory and returns how many there were before. -/
def tally (factory : Nat) (read : FactoryCount → Nat) (next : FactoryCount → FactoryCount) :
    ScenarioHook Nat :=
  onWorld fun w =>
    let count := w.factories.getD factory {}
    (read count, { w with factories := w.factories.setIfInBounds factory (next count) })

/-- The factory of a number. -/
def build (spec : FactorySpec) (factory : Nat) : Factory World Product where
  createInitial generator := do
    let count ← tally factory (·.initials) fun c => { c with initials := c.initials + 1 }
    spec.initial count ("i" ++ toString count) generator
  createNeighbor current generator := do
    let count ← tally factory (·.neighbors) fun c => { c with neighbors := c.neighbors + 1 }
    spec.neighbor count ("n" ++ toString count) current generator

end FactorySpec

end HillClimb.Scenario
