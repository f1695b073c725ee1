import HillClimb.Hook
import HillClimb.Log.Record
import HillClimb.Trajectory.Recording

set_option autoImplicit false

/-! # The machine that a solver runs on

A `Machine` is a `Solver`, the caller's world, the random generators, the recorded trajectories, a
`transcript` of all that happened, in order, and a `journal` of log records. An `Action` changes the
machine and returns something, or fails; what it did before it failed stays done. An action may also
remain `unfinished`, when the steps it was granted are used up, and that is no failure: nothing
catches it. What a solver does in its own way is a `Method`. -/

namespace HillClimb

/-- The `SolverState` of a solver. -/
inductive Phase where
  | uninitialized
  | ready
  deriving DecidableEq, Repr

/-- The fields of a `BaseSolver`, around the inner state `I` of what is derived from it. -/
structure Solver (I : Type) where
  name : String
  seed : Int
  generator : GeneratorId
  observers : Array ObserverId
  steps : Int
  phase : Phase
  inner : I

/-- The public state of a solver: `state`, `number_of_steps`, the current solution and the count of
    rejections in a row, if there is one. -/
structure View (S : Type) where
  phase : Phase
  steps : Int
  current : Option S
  stagnation : Option Int
  deriving Repr, DecidableEq

/-- What can be seen at a moment: the `View` of the solver, and what the observers have recorded. -/
structure Sight (S : Type) extends View S where
  recordings : Recordings
  deriving Repr

/-- A thing that happened. The entries with a `Sight` are those at which code of the caller's begins
    or goes on. -/
inductive Entry (S : Type) where
  /-- `_do_initialize` was called. -/
  | startCalled
  /-- `step` was called. -/
  | stepCalled
  /-- A solution was asked for its `costs`, or about another one. -/
  | probed (p : Probe S)
  /-- The factory was asked to `create_initial`. -/
  | initialAsked
  /-- The factory was asked to `create_neighbor` of this solution. -/
  | neighborAsked (current : Option S)
  /-- The acceptance rule, `custom` or not, was asked whether it `accepts` the neighbour. -/
  | acceptanceAsked (custom : Bool) (neighbor : S) (current : Option S)
  /-- A start made this the current solution. -/
  | started (solution : S)
  /-- A step took the neighbour or counted its rejection. -/
  | decided (neighbor : S) (accepted : Bool)
  /-- The count of rejections in a row was overwritten from outside. -/
  | overwritten (n : Int)
  /-- The observer at a place of the list was told `News`, and saw this. -/
  | notified (place : Nat) (observer : ObserverId) (news : News S) (seen : Sight S)
  /-- A stop condition was consulted, and saw this. -/
  | stopAsked (seen : Sight S)
  /-- A `Program` looked at the solver, and saw this. -/
  | looked (seen : Sight S)
  /-- A `Program` read what an observer has recorded, and saw this. -/
  | read (observer : ObserverId) (seen : Sight S)
  /-- A `Program` went on after a `Call` of its own, and saw this. -/
  | resumed (seen : Sight S)
  deriving Repr

/-- A `Solver` and all that it works with. -/
structure Machine (W I S : Type) where
  solver : Solver I
  world : W
  generators : Generators
  recordings : Recordings
  transcript : Array (Entry S)
  journal : Array LogRecord
  /-- The least level of records that `Action.log` writes. -/
  level : Int

/-- Why an `Action` did not return. -/
inductive Halt where
  | failed (cause : Failure)
  | unfinished
  deriving DecidableEq, Repr

/-- An action on a `Machine`. -/
abbrev Action (W I S α : Type) := ExceptT Halt (StateM (Machine W I S)) α

namespace Action

variable {W I S α : Type}

/-- Runs an `Action` on a `Machine`. -/
def runOn (x : Action W I S α) (m : Machine W I S) : Except Halt α × Machine W I S := x.run m

/-- Fails. -/
def fail (cause : Failure) : Action W I S α := throw (.failed cause)

/-- Adds an `Entry` to the `transcript`. -/
def note (e : Entry S) : Action W I S Unit :=
  modify fun m => { m with transcript := m.transcript.push e }

/-- Adds a `LogRecord` to the `journal`, if its level is not below that of the machine. -/
def log (level : Int) (source : LogSource) (message : String) (arguments : List (Option String)) :
    Action W I S Unit :=
  modify fun m =>
    if m.level ≤ level then
      { m with journal := m.journal.push ⟨level, source, message, arguments⟩ }
    else m

/-- Changes the solver. -/
def changeSolver (f : Solver I → Solver I) : Action W I S Unit :=
  modify fun m => { m with solver := f m.solver }

/-- Runs a `Hook` in a `HookState` that is made of the machine's world and generators. The questions
    it asks are added to the `transcript`, whether it fails or not. -/
def hook (h : Hook W S α) : Action W I S α :=
  ExceptT.mk fun ⟨solver, world, generators, recordings, transcript, journal, level⟩ =>
    let (result, state) := h.runAt ⟨world, generators, #[]⟩
    let transcript := transcript ++ state.probes.map Entry.probed
    (result.mapError Halt.failed,
      ⟨solver, state.world, state.generators, recordings, transcript, journal, level⟩)

/-- Runs an `Action` and goes on with its outcome. An `unfinished` action stays unfinished. -/
def attempt (x : Action W I S α) : Action W I S (Except Failure α) :=
  ExceptT.mk fun m =>
    match x.runOn m with
    | (.ok a, m) => (.ok (.ok a), m)
    | (.error (.failed cause), m) => (.ok (.error cause), m)
    | (.error .unfinished, m) => (.error .unfinished, m)

end Action

/-- What a class that is derived from `BaseSolver` adds to it: `_do_initialize`, `_do_step` and
    `get_current_solution`, and the count of rejections in a row if there is one. -/
structure Method (W I S : Type) where
  start : Action W I S Unit
  /-- This is `_do_step`: it returns the neighbour it tried and whether that was accepted. -/
  move : Action W I S (S × Bool)
  current : I → Option S
  stagnation : I → Option Int
  setStagnation : Int → I → I

namespace Method

variable {W I S : Type}

/-- The `View` of a solver. -/
def view (method : Method W I S) (s : Solver I) : View S :=
  ⟨s.phase, s.steps, method.current s.inner, method.stagnation s.inner⟩

/-- The `Sight` of a machine at the moment. -/
def sight (method : Method W I S) (m : Machine W I S) : Sight S :=
  ⟨method.view m.solver, m.recordings⟩

/-- Adds an `Entry` with the `sight` of the moment to the `transcript`. -/
def noteSeen (method : Method W I S) (entry : Sight S → Entry S) : Action W I S Unit :=
  modify fun m => { m with transcript := m.transcript.push (entry (method.sight m)) }

end Method

end HillClimb
