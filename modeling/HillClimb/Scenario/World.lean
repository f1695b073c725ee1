import HillClimb.Number.Width
import HillClimb.Scenario.Item
import HillClimb.Solver.Machine
import HillClimb.Value.Conversion

set_option autoImplicit false

/-! # The world of a scenario

The `World` is what the hooks of a scenario remember: how many items there are, how often each
factory, rule, observer and stop condition was called, and what the observers saw. -/

namespace HillClimb.Scenario

/-- News as they reached an observer, and the `View` that it then had of the solver. -/
structure Event where
  observer : ObserverId
  news : News Product
  view : View Product

/-- How often a factory was asked for initial solutions and for neighbours. -/
structure FactoryCount where
  initials : Nat := 0
  neighbors : Nat := 0
  deriving Inhabited

/-- How often an observer was told of starts and of steps. -/
structure NewsCount where
  starts : Nat := 0
  steps : Nat := 0
  deriving Inhabited

/-- The memory of all hooks of a scenario. -/
structure World where
  items : Nat := 0
  factories : Array FactoryCount := #[]
  observers : Array NewsCount := #[]
  /-- One counter for each rule that counts its calls. -/
  counters : Array Nat := #[]
  events : Array Event := #[]
  /-- How often the stop condition of the present run was consulted. -/
  stopCalls : Nat := 0
  /-- How many restarts the present run has left. -/
  restarts : Nat := 0

/-- A `Hook` of a scenario. -/
abbrev ScenarioHook (α : Type) := Hook World Product α

namespace World

/-- A new item of what `spec` says. -/
def make (spec : ItemSpec) (label : String) (w : World) : Item × World :=
  (⟨w.items, spec.label.getD label, spec.amount, spec.fault, spec.judgement, spec.content⟩,
    { w with items := w.items + 1 })

/-- A new item, or nothing. -/
def makeProduct (spec : Option ItemSpec) (label : String) (w : World) : Product × World :=
  match spec with
  | some spec =>
    let (item, w) := w.make spec label
    (some item, w)
  | none => (none, w)

/-- A new counter, by its number. -/
def addCounter (w : World) : Nat × World :=
  (w.counters.size, { w with counters := w.counters.push 0 })

end World

/-- The place that a number names in a list of a length; one below zero is counted from the end. -/
def place? (length : Nat) (n : Int) : Option Nat :=
  let place := if n < 0 then n + length else n
  if 0 ≤ place ∧ place < length then some place.toNat else none

/-- The `place?` of a number in a list of a length, which must have it. -/
def placeOf (length : Nat) (n : Int) : Except Failure Nat :=
  if Width.machine.holds n then (place? length n).elim (.error .noSuchPlace) .ok
  else .error .beyondPlaces

/-- What stands where a place or a count is asked for: an integer, something of a sort that is none,
    or nothing under the key. -/
inductive Figure where
  | integer (n : Int)
  | other (sort : String)
  | missing (key : String)
  deriving DecidableEq, Repr

namespace Figure

/-- A value as a figure. -/
def ofValue (v : Value) : Figure := v.integer?.elim (.other v.kind.name) .integer

/-- The place that a figure names in a list of a length, which must have it. -/
def place (length : Nat) : Figure → Except Failure Nat
  | .integer n => placeOf length n
  | .other sort => .error (.wrongPlace sort)
  | .missing key => .error (.raised .missingKey key)

/-- The integer that a figure is. -/
def toInteger : Figure → Except Failure Int
  | .integer n => .ok n
  | .other sort => .error (.notIndex sort)
  | .missing key => .error (.raised .missingKey key)

end Figure

/-- Works on the world and returns something. -/
def onWorld {α : Type} (f : World → α × World) : ScenarioHook α :=
  modifyGet fun ⟨world, generators, probes⟩ =>
    let (a, world) := f world
    (a, ⟨world, generators, probes⟩)

/-- Makes an item. -/
def newItem (spec : ItemSpec) (label : String) : ScenarioHook Product :=
  onWorld (World.makeProduct (some spec) label)

/-- Counts a call and returns how many there are now. -/
def countCall (counter : Nat) : ScenarioHook Nat :=
  onWorld fun w =>
    let count := w.counters.getD counter 0 + 1
    (count, { w with counters := w.counters.setIfInBounds counter count })

end HillClimb.Scenario
