import HillClimb.Solver.Program

set_option autoImplicit false

/-! # The lifecycle of solvers

The methods of a `BaseSolver`: `initialize` (`Solver.begin`), `step` (`Solver.advance`) and `run`
(`Solver.run`). After every transition the observers are told, one by one along the list as it
stands when their turn comes (`Solver.round`), so an observer added in the middle of a round is told
in the same round. An observer may call the solver again: calls nest. `Solver.serve` serves a `Call`
within a bound on how deep calls nest and how long rounds and runs are; a call that needs more is
left `unfinished`. -/

namespace HillClimb

variable {W I S : Type} [Candidate S]

namespace Action

/-- Runs `Recording.record` on the trajectory of an observer. -/
def record (method : Method W I S) (o : ObserverId) (news : News S) : Action W I S Unit :=
  ExceptT.mk fun ⟨solver, world, generators, recordings, transcript, journal, level⟩ =>
    let (trajectory, recordings) := recordings.take o
    let (result, state) :=
      (Recording.record (method.current solver.inner) news).run ⟨trajectory, #[]⟩
    (result.mapError Halt.failed,
      ⟨solver, world, generators, recordings.put o state.trajectory,
        transcript ++ state.probes.map Entry.probed, journal, level⟩)

end Action

namespace Solver

variable (method : Method W I S) (cast : Cast W S)

/-! ## Rounds -/

/-- What an `Observer` does when it is told `News`. -/
def react (serve : Call → Action W I S Unit) (news : News S) (o : ObserverId) :
    Action W I S Unit :=
  match cast.observer o with
  | .silent => return
  | .recorder => Action.record method o news
  | .custom program => (program news).play method serve

/-- Tells the observer at a place of the list, and lets it `react`. -/
def notify (serve : Call → Action W I S Unit) (news : News S) (place : Nat) (o : ObserverId) :
    Action W I S Unit := do
  method.noteSeen (.notified place o news)
  react method cast serve news o

/-- Tells all observers from a place of the list on, as far as the list goes by then. -/
def round (serve : Call → Action W I S Unit) (news : News S) : Nat → Nat → Action W I S Unit
  | 0, _ => throw .unfinished
  | fuel + 1, place => do
    match (← get).solver.observers[place]? with
    | none => return
    | some o =>
      notify method cast serve news place o
      round serve news fuel (place + 1)

/-! ## Calls -/

/-- The first half of `initialize`: the transition, without the round. It gives the `News`. -/
def enter : Action W I S (News S) := do
  Action.note .startCalled
  method.start
  Action.changeSolver fun s => { s with steps := 0, phase := .ready }
  return .started (method.current (← get).solver.inner)

/-- This is `initialize`: the transition `enter`, and a `round` of its news. -/
def begin (serve : Call → Action W I S Unit) (fuel : Nat) : Action W I S Unit := do
  let news ← enter method
  round method cast serve news fuel 0

/-- The first half of `step`: the transition, without the round. It gives the `News`. -/
def stride : Action W I S (News S) := do
  Action.note .stepCalled
  if (← get).solver.phase ≠ .ready then Action.fail .notStarted
  let (neighbor, accepted) ← method.move
  Action.changeSolver fun s => { s with steps := s.steps + 1 }
  return .stepped neighbor accepted

/-- This is `step`: the transition `stride`, and a `round` of its news. -/
def advance (serve : Call → Action W I S Unit) (fuel : Nat) : Action W I S Unit := do
  let news ← stride method
  round method cast serve news fuel 0

/-- Whether as many steps were made as `max_steps` allows. -/
def limitReached (limit : Option Value) (laps : Nat) : Action W I S Bool :=
  match limit with
  | none => return false
  | some limit =>
    match (Value.int laps).relate .atLeast limit with
    | .ok reached => return reached
    | .error cause => Action.fail cause

/-- The loop of `run`: makes steps until the stop condition says so or the limit is reached, and
    returns their number. The stop condition is consulted first, each time. -/
def laps (serve : Call → Action W I S Unit) (stop : StopId) (limit : Option Value) (bound : Nat) :
    Nat → Nat → Action W I S Nat
  | 0, _ => throw .unfinished
  | fuel + 1, count => do
    method.noteSeen .stopAsked
    if ← (cast.stop stop).play method serve then return count
    if ← limitReached limit count then return count
    advance method cast serve bound
    laps serve stop limit bound fuel (count + 1)

/-- The body of `run`: starts the search unless it is `ready`, and makes its `laps` between two
    records. -/
def runUntil (serve : Call → Action W I S Unit) (fuel : Nat) (stop : StopId)
    (limit : Option Value) : Action W I S Unit := do
  if (← get).solver.phase ≠ .ready then begin method cast serve fuel
  let s := (← get).solver
  Action.log Level.info .lifecycle (s.name ++ " iniciado (seed=" ++ toString s.seed ++ ").") []
  let count ← laps method cast serve stop limit fuel fuel 0
  let s := (← get).solver
  Action.log Level.info .lifecycle
    (s.name ++ " finalizado após " ++ toString count ++ " passos.") []

/-- Serves a `Call`, given how calls nested in it are served. -/
def obey (serve : Call → Action W I S Unit) (fuel : Nat) : Call → Action W I S Unit
  | .start => begin method cast serve fuel
  | .step => advance method cast serve fuel
  | .run stop limit => runUntil method cast serve fuel stop limit
  | .observe o => Action.changeSolver fun s => { s with observers := s.observers.push o }
  | .setStagnation n => do
    Action.note (.overwritten n)
    Action.changeSolver fun s => { s with inner := method.setStagnation n s.inner }

/-- Serves a `Call`; calls nest at most as deep as the number says. -/
def serve : Nat → Call → Action W I S Unit
  | 0, _ => throw .unfinished
  | fuel + 1, c => obey method cast (serve fuel) fuel c

/-- This is `run`: it returns the solution that the solver is at in the end. -/
def run (fuel : Nat) (stop : StopId) (limit : Option Value) : Action W I S (Option S) := do
  serve method cast fuel (.run stop limit)
  return method.current (← get).solver.inner

end Solver

end HillClimb
