import HillClimb.Scenario.Report
import HillClimb.Scenario.Solvers
import HillClimb.Scenario.Watchers

set_option autoImplicit false

/-! # The stage of a session

The solvers of a `Session` share factories, generators, observers and what all of these remember,
which is the `Stage`. Each solver has a `Seat`, by the number of which it is known. -/

namespace HillClimb.Scenario

/-! ## State -/

/-- What the solvers of a session share: all of a `Machine` but its solver, journal and
    transcript. -/
structure Stage where
  world : World
  generators : Generators
  recordings : Recordings
  /-- The least level of records that are written. -/
  level : Int

/-- A solver of a session: a local search, or one that follows a script (`Scripted`). -/
inductive Seat where
  | search (method : Method World ScenarioSearch Product) (solver : Solver ScenarioSearch)
  | scripted (solver : Solver Scripted)

/-- A session: what is shared, what solvers may be made of, and the solvers that there are. -/
structure Session where
  stage : Stage
  factories : Array FactorySpec
  /-- How many generators are shared. Those behind them belong to one solver each. -/
  sharedGenerators : Nat
  observers : Array ObserverSpec
  /-- The seconds since the epoch that the clock shows. -/
  clock : Value
  seats : Array Seat := #[]

/-- A session before its first `Command`. -/
def Session.initial (factories : Array FactorySpec) (generators : Generators)
    (observers : Array ObserverSpec) (clock : Value) (level : Int) : Session :=
  let world : World :=
    { factories := Array.replicate factories.size {}
      observers := Array.replicate observers.size {} }
  { stage := ⟨world, generators, {}, Level.effective level⟩
    factories
    sharedGenerators := generators.size
    observers
    clock }

/-! ## Seats -/

namespace Seat

/-- Whether the solver counts the rejections in a row, as a `LocalSearch` does. -/
def counts : Seat → Bool
  | .search .. => true
  | .scripted _ => false

/-- The `View` of the solver. -/
def view : Seat → View Product
  | .search method solver => method.view solver
  | .scripted solver => Scripted.method.view solver

/-- The state of the solver. -/
def state (seat : Seat) : StateReport := StateReport.of seat.counts seat.view

def name : Seat → String
  | .search _ solver => solver.name
  | .scripted solver => solver.name

def seed : Seat → Int
  | .search _ solver => solver.seed
  | .scripted solver => solver.seed

def generator : Seat → GeneratorId
  | .search _ solver => solver.generator
  | .scripted solver => solver.generator

/-- How many observers the solver has. -/
def audience : Seat → Nat
  | .search _ solver => solver.observers.size
  | .scripted solver => solver.observers.size

end Seat

end HillClimb.Scenario
