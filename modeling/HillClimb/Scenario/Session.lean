import HillClimb.Scenario.Stage
import HillClimb.Scenario.Report

set_option autoImplicit false

/-! # Sessions

A session plays commands, one after another, on solvers that share factories, generators and
observers. `Session.perform` plays one `Command` and makes a `Report` of it: its outcome, what the
observers saw, what was logged, the trace, and the state that it left its solver in. -/

namespace HillClimb.Scenario

/-! ## Commands -/

/-- A field of a solver and what is put there from outside. -/
inductive Assignment where
  | stagnation (n : Int)
  | steps (n : Int)
  | seed (n : Int)
  | comparator (c : Option ComparatorSpec)
  | acceptance (a : Option AcceptanceSpec)
  | factory (f : Option Figure)
  | current (item : Option ItemSpec)

/-- A command. Solvers, observers, generators and factories are named by their places in the lists
    of the session; a place below zero is counted from the end (`placeOf`). -/
inductive Command where
  | new (spec : SolverSpec)
  | start (s : Int)
  | step (s : Int) (count : Figure)
  | run (s : Int) (rule : StopRule) (restarts : Nat) (limit : Option Value)
  | observe (s : Int) (o : Figure)
  /-- Puts an observer into the list that the solver's observers were taken from, which the solver
      never looks at again. -/
  | changeSource (s : Int) (o : Figure)
  | state (s : Int)
  | info (s : Int)
  | draw (s : Int)
  | drawFrom (g : Figure)
  | trajectory (o : Figure)
  | reset (o : Figure)
  | level (v : Value)
  | assign (s : Int) (a : Assignment)

namespace Session

/-- The fuel of a command: how deep calls may nest and how long rounds and runs may be, far more
    than a scenario can use. -/
def bound : Nat := 1099511627776

/-- The factory that a figure names, if there is one. -/
def factory? (session : Session) : Option Figure → Except Failure (Option (Factory World Product))
  | none => .ok none
  | some name => do
    let f ← name.place session.factories.size
    return session.factories[f]?.map fun spec => spec.build f

/-- The shared generator that a figure names, if there is one. -/
def generator? (session : Session) : Option Figure → Except Failure (Option GeneratorId)
  | none => .ok none
  | some name => (name.place session.sharedGenerators).map some

/-- The observer that a figure names. -/
def observer (session : Session) (name : Figure) : Except Failure ObserverId :=
  name.place session.observers.size

/-- The `Cast` of the session's observers, and a stop condition. -/
def cast (session : Session) (stop : ScenarioProgram Bool) : Cast World Product where
  observer o := (session.observers.getD o .silent).build session.observers.size o
  stop _ := stop

/-- What an action did to a solver and to the `Stage`. -/
structure Played (I : Type) where
  outcome : Except Halt Answer
  solver : Solver I
  stage : Stage
  events : Array Event
  logs : Array LogRecord
  transcript : Array (Entry Product)

/-- Plays an action on a solver, from a `Machine` with an empty journal and transcript. -/
def play {I : Type} (stage : Stage) (solver : Solver I) (x : Action World I Product Answer) :
    Played I :=
  let (outcome, m) := x.runOn
    ⟨solver, { stage.world with events := #[] }, stage.generators, stage.recordings, #[], #[],
      stage.level⟩
  ⟨outcome, m.solver, ⟨m.world, m.generators, m.recordings, m.level⟩, m.world.events, m.journal,
    m.transcript⟩

/-- The report of what was played. -/
def Played.report {I : Type} (p : Played I) (seat : Seat) : Report :=
  { outcome := p.outcome
    after := some seat.state
    events := p.events.toList.map (EventReport.of seat.counts)
    logs := p.logs.toList
    trace := traceOf p.transcript }

/-- Puts a solver in its seat. -/
def setSeat (session : Session) (s : Nat) (seat : Seat) : Session :=
  { session with seats := session.seats.setIfInBounds s seat }

/-- Plays an action, whatever the `Method` of the solver, on the solver of a number. -/
def onSolver (session : Session) (s : Nat)
    (x : {I : Type} → Method World I Product → Action World I Product Answer) :
    Report × Session :=
  match session.seats[s]? with
  | none => (.failure .noSuchSolver, session)
  | some (.search method solver) =>
    let p := play session.stage solver (x method)
    let seat := Seat.search method p.solver
    (p.report seat, { session with stage := p.stage }.setSeat s seat)
  | some (.scripted solver) =>
    let p := play session.stage solver (x Scripted.method)
    let seat := Seat.scripted p.solver
    (p.report seat, { session with stage := p.stage }.setSeat s seat)

/-- An answer, or a failure, that needs only to look at a solver. -/
def onSeat (session : Session) (s : Nat) (answer : Seat → Except Failure Answer) :
    Report × Session :=
  match session.seats[s]? with
  | none => (.failure .noSuchSolver, session)
  | some seat =>
    ({ outcome := (answer seat).mapError Halt.failed, after := some seat.state }, session)

/-- The recorder that a figure names; an observer of another sort lacks what a recorder is asked
    for. -/
def recorder (session : Session) (name : Figure) (property : String) :
    Except Failure ObserverId := do
  let o ← session.observer name
  match (session.observers.getD o .silent).sort? with
  | none => return o
  | some sort => throw (.lacks sort property)

/-- Does something with the recorder that a figure names, which is asked for a property. -/
def onRecorder (session : Session) (name : Figure) (property : String)
    (f : ObserverId → Report × Session) : Report × Session :=
  match session.recorder name property with
  | .ok o => f o
  | .error cause => (.failure cause, session)

/-! ## What the commands do -/

/-- What a solver is made with. -/
structure Parts where
  seed : Option Offer
  generator : Option GeneratorId
  observers : Array ObserverId
  factory : Option (Factory World Product)

/-- Makes the seed of a solver that is to be and finds all else that it is made with, in order. A
    scripted solver takes no factory, and none is looked for. -/
def parts (session : Session) (spec : SolverSpec) : Except Failure Parts := do
  let seed ← spec.seed.mapM SeedArgument.make
  let generator ← session.generator? spec.generator
  let observers ← (← spec.observers).mapM session.observer
  let factory ← if spec.kind = .scripted then pure none else session.factory? spec.factory
  return ⟨seed, generator, observers.toArray, factory⟩

/-- A solver that is to be, in its seat. Its seed is taken or refused after all else was found. -/
def seated (session : Session) (spec : SolverSpec) :
    Except Failure (Seat × Generators × World) := do
  let ⟨seed, generator, observers, factory⟩ ← session.parts spec
  let made {I : Type} (inner : I) : Except Failure (Solver I × Generators) :=
    Solver.new spec.kind.solverName seed session.clock generator observers inner
      session.stage.generators
  if spec.kind = .scripted then
    let (solver, generators) ← made spec.script
    return (.scripted solver, generators, session.stage.world)
  else
    let (search, world) := spec.search factory session.stage.world
    let (solver, generators) ← made search
    let method := if spec.kind = .striding then stridingMethod else LocalSearch.method
    return (.search method solver, generators, world)

/-- Makes a solver and gives it the next `Seat`. -/
def addSolver (session : Session) (spec : SolverSpec) : Report × Session :=
  match session.seated spec with
  | .error cause => (.failure cause, session)
  | .ok (seat, generators, world) =>
    ({ outcome := .ok (.made seat.name seat.seed seat.state) },
      { session with
        stage := { session.stage with generators, world }
        seats := session.seats.push seat })

/-- Serves a call some times, up to the first failure. -/
def serveTimes {I : Type} (method : Method World I Product) (cast : Cast World Product) (c : Call) :
    Nat → Action World I Product Unit
  | 0 => return
  | n + 1 => do
    Solver.serve method cast bound c
    serveTimes method cast c n

/-- A `Solver.run` with a stop rule, and what it returns. -/
def runAction (session : Session) (solver : String) (rule : StopRule) (limit : Option Value)
    {I : Type} (method : Method World I Product) : Action World I Product Answer := do
  let solution ← Solver.run method (session.cast (rule.toProgram solver)) bound 0 limit
  return .ran solution.join (← get).world.stopCalls

/-- Runs a solver. The trace of a run that fails ends with the number of consultations. -/
def run (session : Session) (s : Nat) (rule : StopRule) (restarts : Nat) (limit : Option Value) :
    Report × Session :=
  match session.seats[s]? with
  | none => (.failure .noSuchSolver, session)
  | some seat =>
    let world := { session.stage.world with stopCalls := 0, restarts }
    let session := { session with stage := { session.stage with world } }
    let (report, session) := session.onSolver s fun method =>
      session.runAction seat.name rule limit method
    match report.outcome with
    | .ok _ => (report, session)
    | .error _ =>
      let calls := "stop_calls " ++ toString session.stage.world.stopCalls
      ({ report with trace := report.trace ++ [calls] }, session)

/-- A draw from a generator. -/
def drawFrom (session : Session) (g : GeneratorId) : Except Halt Answer × Session :=
  let (result, state) := (Hook.draw g Generator.random : ScenarioHook Value).run
    ⟨session.stage.world, session.stage.generators, #[]⟩
  let stage := { session.stage with generators := state.generators }
  ((result.map Answer.value).mapError Halt.failed, { session with stage })

/-- Puts something into a field of a search. -/
def assignSearch (session : Session) (solver : Solver ScenarioSearch) (w : World) :
    Assignment → Except Failure (Solver ScenarioSearch × World)
  | .stagnation n => return ({ solver with inner := { solver.inner with stagnation := n } }, w)
  | .steps n => return ({ solver with steps := n }, w)
  | .seed n => return ({ solver with seed := n }, w)
  | .comparator c =>
    let (comparator, w) := buildComparator? c w
    return ({ solver with inner := { solver.inner with comparator } }, w)
  | .acceptance none =>
    return ({ solver with inner := { solver.inner with acceptance := none } }, w)
  | .acceptance (some a) =>
    let (a, w) := a.build w
    return ({ solver with inner := { solver.inner with acceptance := some a } }, w)
  | .factory f => do
    let factory ← session.factory? f
    return ({ solver with inner := { solver.inner with factory } }, w)
  | .current spec =>
    let (product, w) := w.makeProduct spec "set"
    return ({ solver with inner := { solver.inner with current := some product } }, w)

/-- Puts something into a field of a scripted solver, which looks only at some of them. -/
def assignScripted (session : Session) (solver : Solver Scripted) :
    Assignment → Except Failure (Solver Scripted)
  | .stagnation n => return { solver with inner := { solver.inner with stagnation := some n } }
  | .steps n => return { solver with steps := n }
  | .seed n => return { solver with seed := n }
  | .factory f => (session.factory? f).map fun _ => solver
  | _ => return solver

/-- Puts something into a field of a solver. -/
def assign (session : Session) (s : Nat) (a : Assignment) : Report × Session :=
  match session.seats[s]? with
  | none => (.failure .noSuchSolver, session)
  | some (.search method solver) =>
    match session.assignSearch solver session.stage.world a with
    | .error cause => session.onSeat s fun _ => .error cause
    | .ok (solver, world) =>
      let stage := { session.stage with world }
      ({ session with stage }.setSeat s (.search method solver)).onSeat s fun _ => .ok .nothing
  | some (.scripted solver) =>
    match session.assignScripted solver a with
    | .error cause => session.onSeat s fun _ => .error cause
    | .ok solver => (session.setSeat s (.scripted solver)).onSeat s fun _ => .ok .nothing

/-- The number of the solver at a place. A place beyond the end has a number too, though no solver
    has it. A place before the beginning has none, and that is no fault of a command but one of the
    session. -/
def solverAt (session : Session) (s : Int) : Except Failure Nat :=
  if session.seats.size ≤ s then .ok session.seats.size else placeOf session.seats.size s

/-- Starts a solver. -/
def start (session : Session) (s : Nat) : Report × Session :=
  session.onSolver s fun method => do
    Solver.serve method (session.cast (.done true)) bound .start
    return .nothing

/-- Makes steps with a solver. -/
def step (session : Session) (s : Nat) (count : Figure) : Report × Session :=
  match count.toInteger with
  | .error cause => session.onSeat s fun _ => .error cause
  | .ok count => session.onSolver s fun method => do
    serveTimes method (session.cast (.done true)) .step count.toNat
    return .nothing

/-- Lets an observer observe a solver too. -/
def observe (session : Session) (s : Nat) (o : Figure) : Report × Session :=
  match session.observer o with
  | .error cause => session.onSeat s fun _ => .error cause
  | .ok o => session.onSolver s fun method => do
    Solver.serve method (session.cast (.done true)) bound (.observe o)
    return .nothing

/-- Draws from the generator of a solver. -/
def draw (session : Session) (s : Nat) : Report × Session :=
  match session.seats[s]? with
  | none => (.failure .noSuchSolver, session)
  | some seat =>
    let (outcome, session) := session.drawFrom seat.generator
    ({ outcome, after := some seat.state }, session)

/-- Draws from a shared generator. -/
def drawShared (session : Session) (g : Figure) : Report × Session :=
  match g.place session.sharedGenerators with
  | .error cause => (.failure cause, session)
  | .ok g =>
    let (outcome, session) := session.drawFrom g
    ({ outcome }, session)

/-- Sets the least level of records that are written. -/
def setLevel (session : Session) (v : Value) : Report × Session :=
  match Level.ofValue v with
  | .error cause => (.failure cause, session)
  | .ok n =>
    let stage := { session.stage with level := Level.effective n }
    ({ outcome := .ok .nothing }, { session with stage })

/-- The recording that a figure names. -/
def readRecording (session : Session) (o : Figure) : Report × Session :=
  session.onRecorder o "acceptance_rate" fun o =>
    ({ outcome := .ok (.reading (.of (session.stage.recordings.of o))) }, session)

/-- Empties the recording that a figure names. -/
def resetRecording (session : Session) (o : Figure) : Report × Session :=
  session.onRecorder o "reset" fun o =>
    let recordings := session.stage.recordings.put o .empty
    ({ outcome := .ok .nothing }, { session with stage := { session.stage with recordings } })

/-- Plays a command. It fails, other than in its report, only if its solver has no number
    (`solverAt`). -/
def perform (session : Session) : Command → Except Failure (Report × Session)
  | .new spec => return session.addSolver spec
  | .start s => return session.start (← session.solverAt s)
  | .step s count => return session.step (← session.solverAt s) count
  | .run s rule restarts limit => return session.run (← session.solverAt s) rule restarts limit
  | .observe s o => return session.observe (← session.solverAt s) o
  | .changeSource s o => do
    let s ← session.solverAt s
    return session.onSeat s fun _ => (session.observer o).map fun _ => .nothing
  | .state s => do
    let s ← session.solverAt s
    return session.onSeat s fun _ => .ok .nothing
  | .info s => do
    let s ← session.solverAt s
    return session.onSeat s fun seat => .ok (.info seat.name seat.seed seat.audience)
  | .draw s => return session.draw (← session.solverAt s)
  | .drawFrom g => return session.drawShared g
  | .trajectory o => return session.readRecording o
  | .reset o => return session.resetRecording o
  | .level v => return session.setLevel v
  | .assign s a => return session.assign (← session.solverAt s) a

/-- Plays commands in order. -/
def performAll (session : Session) : List Command → Except Failure (List Report)
  | [] => return []
  | c :: rest => do
    let (report, session) ← session.perform c
    return report :: (← session.performAll rest)

end Session

end HillClimb.Scenario
