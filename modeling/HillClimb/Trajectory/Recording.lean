import HillClimb.Hook
import HillClimb.Trajectory.Basic

set_option autoImplicit false

/-! # Recording a trajectory

What a `TrajectoryObserver` does with the `News` that it is told: `Recording.record`.

* On news of a start (`on_initialized`) the recording is emptied (`reset`) before the cost of the
  initial solution is asked for.
* On news of a step (`on_step`) the cost of the neighbour is asked for first, and that of the
  current solution last, after the neighbour is recorded.

A `Recording` that fails at a cost leaves what it recorded before. -/

namespace HillClimb

/-- What an observer is told: a call of its `on_initialized` or of its `on_step`. -/
inductive News (S : Type) where
  /-- The search started at this solution. -/
  | started (solution : Option S)
  /-- A step tried this neighbour. -/
  | stepped (neighbor : S) (accepted : Bool)
  deriving Repr, DecidableEq

/-- The state of a `Recording`: the `Trajectory` so far, and the questions asked for it. -/
structure RecordingState (S : Type) where
  trajectory : Trajectory
  probes : Array (Probe S)

/-- A piece of recording. It fails where `Candidate.costs` does. -/
abbrev Recording (S α : Type) := ExceptT Failure (StateM (RecordingState S)) α

namespace Recording

variable {S : Type}

/-- Changes the `Trajectory`. -/
def change (f : Trajectory → Trajectory) : Recording S Unit :=
  modify fun state => { state with trajectory := f state.trajectory }

variable [Candidate S]

/-- Asks a solution for its `costs`. No solution has none. -/
def costs : Option S → Recording S Value
  | none => throw (.absent "costs")
  | some s => do
    modify fun state => { state with probes := state.probes.push (.costs s) }
    ExceptT.mk (pure (Candidate.costs s))

/-- Records `News`, given the solution that `get_current_solution` gives when they come. -/
def record (current : Option S) : News S → Recording S Unit
  | .started solution => do
    change fun _ => .empty
    let cost ← costs solution
    change (·.pushCosts cost)
  | .stepped neighbor accepted => do
    let cost ← costs (some neighbor)
    change (·.pushNeighbor cost accepted)
    let cost ← costs current
    change (·.pushCosts cost)

end Recording

end HillClimb
