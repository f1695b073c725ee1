import HillClimb.Solver.Machine

set_option autoImplicit false

/-! # Programs of observers and stop conditions

An observer, or a stop condition, may look at the solver, read what an observer has recorded, run a
`Hook`, and call back into the solver while the solver waits for it. What it may do is a `Program`:
a tree whose branches are chosen by what it sees and by the outcome of what it does. A program has
no other way to touch the solver than a `Call`, so whatever holds of all calls holds of all
programs. `Program.play` runs a program, given how calls are served; the `Cast` says which programs
there are. -/

namespace HillClimb

/-- The number by which a stop condition is known. -/
abbrev StopId := Nat

/-- A call of a method of the solver, or an assignment to it. -/
inductive Call where
  /-- This is `initialize`. -/
  | start
  /-- This is `step`. -/
  | step
  /-- This is `run`, with a stop condition and `max_steps`. -/
  | run (stop : StopId) (limit : Option Value)
  /-- This is `add_observer`. -/
  | observe (o : ObserverId)
  /-- Assigns `situation_has_not_improved`. -/
  | setStagnation (n : Int)
  deriving Repr

/-- What the caller, an observer or a stop condition does. -/
inductive Program (W S α : Type) where
  /-- Ends with an answer. -/
  | done (a : α)
  /-- Ends with a failure. -/
  | fail (cause : Failure)
  /-- Looks at the `View` of the solver and at the world. -/
  | look (next : View S → W → Program W S α)
  /-- Reads the `Trajectory` that an observer has recorded. -/
  | read (o : ObserverId) (next : Trajectory → Program W S α)
  /-- Runs a `Hook` that answers with a value, and goes on from its outcome. -/
  | perform (h : Hook W S Value) (next : Except Failure Value → Program W S α)
  /-- Makes a `Call`, and goes on from the outcome. -/
  | call (c : Call) (next : Except Failure Unit → Program W S α)

namespace Program

variable {W S α β : Type}

/-- One program after another. -/
def bind : Program W S α → (α → Program W S β) → Program W S β
  | .done a, f => f a
  | .fail cause, _ => .fail cause
  | .look next, f => .look fun seen world => (next seen world).bind f
  | .read o next, f => .read o fun trajectory => (next trajectory).bind f
  | .perform h next, f => .perform h fun outcome => (next outcome).bind f
  | .call c next, f => .call c fun outcome => (next outcome).bind f

instance : Monad (Program W S) where
  pure := .done
  bind := bind

/-- Goes on only if nothing failed, as code does that catches nothing. -/
def orFail : Except Failure α → Program W S α
  | .ok a => .done a
  | .error cause => .fail cause

/-- The `View` of the solver. -/
def view : Program W S (View S) := .look fun seen _ => .done seen

/-- The caller's world. -/
def world : Program W S W := .look fun _ world => .done world

/-- Runs a `Hook`, and fails if it does. -/
def hook (h : Hook W S Value) : Program W S Value := .perform h orFail

/-- Makes a `Call`, and fails if the call does. -/
def calling (c : Call) : Program W S Unit := .call c orFail

/-- Runs a `Program` on a machine, given how calls are served. -/
def play {I : Type} (method : Method W I S) (serve : Call → Action W I S Unit) :
    Program W S α → Action W I S α
  | .done a => return a
  | .fail cause => Action.fail cause
  | .look next => do
    method.noteSeen .looked
    let m ← get
    play method serve (next (method.view m.solver) m.world)
  | .read o next => do
    method.noteSeen (.read o)
    play method serve (next ((← get).recordings.of o))
  | .perform h next => do
    let outcome ← Action.attempt (Action.hook h)
    play method serve (next outcome)
  | .call c next => do
    let outcome ← Action.attempt (serve c)
    method.noteSeen .resumed
    play method serve (next outcome)

end Program

/-- A `SolverObserver` or an object of a class derived from it. -/
inductive Observer (W S : Type) where
  /-- The `SolverObserver` itself, which does nothing. -/
  | silent
  /-- A `TrajectoryObserver`. -/
  | recorder
  /-- Runs a `Program` on the `News` that it is told. -/
  | custom (react : News S → Program W S Unit)

/-- The observers and stop conditions that there are, by `ObserverId` and `StopId`. -/
structure Cast (W S : Type) where
  observer : ObserverId → Observer W S
  stop : StopId → Program W S Bool

end HillClimb
