import HillClimb.Scenario.World
import HillClimb.Trajectory.Reading

set_option autoImplicit false

/-! # Traces and reports

A trace (`traceOf`) is what is told of a transcript: the calls of the scenario's own hooks, by
labels. A `Report` tells what a command did: what it answered or why it failed, what the observers
saw, what was logged, which hooks were called, and in which state it left its solver. -/

namespace HillClimb.Scenario

/-! ## Traces -/

/-- The line of a question. It shows the labels of all that is asked about, so a question that is
    asked of nothing, or about nothing, is not told. -/
def probeLine? : Probe Product → Option String
  | .costs s => do return "costs " ++ (← s).label
  | .better a b => do return "better " ++ (← a).label ++ " " ++ (← b).label
  | .compared a b => do return "cmp " ++ (← a).label ++ " " ++ (← b).label

/-- The line of an entry of a transcript, if it is told. -/
def entryLine? : Entry Product → Option String
  | .probed p => probeLine? p
  | .initialAsked => some "create_initial"
  | .neighborAsked current => some ("create_neighbor " ++ Product.labelOrDash current.join)
  | .acceptanceAsked true neighbor current =>
    do return "accepts " ++ (← neighbor).label ++ " " ++ Product.labelOrDash current.join
  | _ => none

/-- The trace of a transcript. -/
def traceOf (transcript : Array (Entry Product)) : List String :=
  transcript.toList.filterMap entryLine?

/-! ## Reports -/

/-- The state of a solver as it is told: what is told of a `View`. -/
structure StateReport where
  phase : Phase
  steps : Int
  current : Product
  /-- The rejections in a row, of solvers that count them. -/
  stagnation : Option Int

/-- An `Event` as it is told. -/
structure EventReport where
  observer : ObserverId
  news : News Product
  /-- Whether the solution that was told of was the current one. -/
  isCurrent : Bool
  state : StateReport

/-- What a `Trajectory` reads as: the three arrays of its observer, and its acceptance rate. -/
structure TrajectoryReading where
  costs : Except Failure Reading
  neighborCosts : Except Failure Reading
  accepted : Reading
  rate : Binary64

/-- The reading of a trajectory. -/
def TrajectoryReading.of (t : Trajectory) : TrajectoryReading :=
  { costs := Reading.ofValues t.costs.toList
    neighborCosts := Reading.ofValues t.neighborCosts.toList
    accepted := Reading.ofBools t.accepted.toList
    rate := t.acceptanceRate }

/-- What a `Command` answers. -/
inductive Answer where
  | nothing
  | made (name : String) (seed : Int) (state : StateReport)
  | ran (returned : Product) (consultations : Nat)
  | info (name : String) (seed : Int) (observers : Nat)
  | value (v : Value)
  | reading (r : TrajectoryReading)

/-- What a `Command` did. -/
structure Report where
  outcome : Except Halt Answer
  /-- The state in which it left its solver, if it has one. -/
  after : Option StateReport := none
  events : List EventReport := []
  logs : List LogRecord := []
  trace : List String := []

/-- The report of a failure that happened before anything else. -/
def Report.failure (cause : Failure) : Report := { outcome := .error (.failed cause) }

/-- The state that a `View` shows; a count of rejections is told only of searches. -/
def StateReport.of (counts : Bool) (view : View Product) : StateReport :=
  ⟨view.phase, view.steps, view.current.join, if counts then view.stagnation else none⟩

/-- The solution that news are of. -/
def solutionOf : News Product → Product
  | .started solution => solution.join
  | .stepped neighbor _ => neighbor

/-- An event as it is told. -/
def EventReport.of (counts : Bool) (e : Event) : EventReport :=
  ⟨e.observer, e.news, (solutionOf e.news).isSame e.view.current.join,
    StateReport.of counts e.view⟩

end HillClimb.Scenario
