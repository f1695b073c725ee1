import HillClimb.Scenario.Makers
import HillClimb.Scenario.Rules

set_option autoImplicit false

/-! # Solvers of a scenario

Besides the local search that asks its factory (`LocalSearch.method`), there are local searches that
make their own solutions, one that goes on whatever the cost (`stridingMethod`), and a solver
without a search at all that follows a script (`Scripted.method`). -/

namespace HillClimb.Scenario

/-! ## Local searches of their own -/

/-- The sort of a solver, and with it its name (`SolverKind.solverName`). -/
inductive SolverKind where
  /-- The plain local search. -/
  | search
  /-- A local search that makes its initial solutions and neighbours itself. -/
  | making
  /-- A local search that makes only its initial solutions itself. -/
  | halfMaking
  /-- A local search that makes its steps itself: each costs one more and is accepted. -/
  | striding
  /-- A solver that follows a script. -/
  | scripted
  deriving DecidableEq, Repr

/-- The name of a solver of a sort. -/
def SolverKind.solverName : SolverKind → String
  | .search => "LocalSearchSolver"
  | .making => "HookSolver"
  | .halfMaking => "HalfSolver"
  | .striding => "MoveSolver"
  | .scripted => "ScriptSolver"

/-- A `LocalSearch` of a scenario. -/
abbrev ScenarioSearch := LocalSearch World Product

/-- The label of the next step's item. -/
def stepLabel (mark : String) (steps : Int) : String := mark ++ toString (steps + 1)

/-- An item that costs so much more than the current one, whose cost is asked for. -/
def costingMore (amount : Value) (current : Option Product) (label : String) :
    ScenarioHook Product := do
  match current with
  | none => throw (.absent "costs")
  | some item =>
    let cost ← Hook.costs item
    newItem (.costing (← FactorySpec.sum cost amount)) label

/-- The step of a search that goes on whatever the cost: its neighbour is always accepted. -/
def stride : Action World ScenarioSearch Product (Product × Bool) := do
  let s := (← get).solver
  let next ← Action.hook (costingMore (.int 1) s.inner.current (stepLabel "m" s.steps))
  LocalSearch.change fun search => { search with current := some next, stagnation := 0 }
  return (next, true)

/-- The `LocalSearch.method` with the `stride` for its step. -/
def stridingMethod : Method World ScenarioSearch Product :=
  { LocalSearch.method with move := stride }

/-! ## Solvers that follow a script -/

/-- A solver that follows a script. -/
structure Scripted where
  /-- How often it was started. -/
  starts : Nat := 0
  /-- Which starts fail, by their number from one on. -/
  failing : List Int
  /-- The cost of its initial items. -/
  cost : Value
  /-- The items of its steps, and whether they are accepted. -/
  moves : Array (ItemSpec × Bool)
  /-- How many steps it made. -/
  made : Nat := 0
  current : Option Product := none
  /-- A count of rejections that was put there from outside. -/
  stagnation : Option Int := none

namespace Scripted

/-- Changes the state of the script. -/
def change (f : Scripted → Scripted) : Action World Scripted Product Unit :=
  Action.changeSolver fun s => { s with inner := f s.inner }

/-- The next start of the script. -/
def start : Action World Scripted Product Unit := do
  change fun s => { s with starts := s.starts + 1 }
  let s := (← get).solver.inner
  if s.failing.contains (s.starts : Int) then Action.fail (.staged "init failed")
  let item ← Action.hook (newItem (.costing s.cost) ("b" ++ toString s.starts))
  change fun s => { s with current := some item }

/-- The next step of the script. -/
def move : Action World Scripted Product (Product × Bool) := do
  let s := (← get).solver.inner
  match s.moves[s.made]? with
  | none => Action.fail .scriptExhausted
  | some (spec, accepted) =>
    change fun s => { s with made := s.made + 1 }
    let item ← Action.hook (newItem spec (stepLabel "v" s.made))
    if accepted then change fun s => { s with current := some item }
    return (item, accepted)

/-- Following a script as a `Method` to search. -/
def method : Method World Scripted Product where
  start := start
  move := move
  current := (·.current)
  stagnation := (·.stagnation)
  setStagnation n s := { s with stagnation := some n }

end Scripted

/-! ## Making solvers -/

/-- What solver there is to be. Its generator, observers and factory are named by their places in
    the lists of the session. -/
structure SolverSpec where
  kind : SolverKind
  seed : Option SeedArgument
  generator : Option Figure
  /-- The places of the observers, or why they are not listed. -/
  observers : Except Failure (List Figure)
  factory : Option Figure
  comparator : Option ComparatorSpec
  acceptance : Option AcceptanceSpec
  /-- The cost of the initial items that it makes itself. -/
  start : Value
  /-- How much more a neighbour costs that it makes itself. -/
  delta : Value
  /-- Which starts of its script fail. -/
  failing : List Int
  /-- The steps of its script. -/
  moves : Array (ItemSpec × Bool)

/-- The `LocalSearch` that is to be, given what its factory is. -/
def SolverSpec.search (spec : SolverSpec) (factory : Option (Factory World Product)) (w : World) :
    ScenarioSearch × World :=
  let (comparator, w) := buildComparator? spec.comparator w
  let (acceptance, w) : Option (Acceptance World Product) × World :=
    match spec.acceptance with
    | some a =>
      let (a, w) := a.build w
      (some a, w)
    | none => (none, w)
  let plain : ScenarioSearch := LocalSearch.new factory comparator acceptance
  let initialMaker : ScenarioHook Product := newItem (.costing spec.start) "h"
  let neighborMaker : Int → Option Product → ScenarioHook Product := fun steps current =>
    costingMore spec.delta current (stepLabel "h" steps)
  match spec.kind with
  | .making =>
    ({ plain with initialMaker := some initialMaker, neighborMaker := some neighborMaker }, w)
  | .halfMaking => ({ plain with initialMaker := some initialMaker }, w)
  | _ => (plain, w)

/-- The script that is to be. -/
def SolverSpec.script (spec : SolverSpec) : Scripted :=
  { failing := spec.failing, cost := spec.start, moves := spec.moves }

end HillClimb.Scenario
