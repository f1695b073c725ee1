import HillClimb.Scenario.World
import HillClimb.Solver.Program

set_option autoImplicit false

/-! # Observers and stop conditions of a scenario

`ObserverSpec.build` and `StopRule.toProgram` make an `Observer` and a stop condition of a
description. Both are programs (`ScenarioProgram`), so they may call the solver that they watch. -/

namespace HillClimb.Scenario

/-- A program of a scenario. -/
abbrev ScenarioProgram (α : Type) := Program World Product α

/-- Changes the world. -/
def ScenarioProgram.change (f : World → World) : ScenarioProgram Unit := do
  let _ ← Program.hook (Scenario.onWorld fun w => (.none, f w))

/-! ## Observers -/

/-- One of the `actions` of an observer. -/
inductive ObserverAction where
  | fail (cause : Failure)
  | step
  | start
  /-- Lets the observer at a place of the list of observers observe too. -/
  | observe (o : Figure)
  | setStagnation (n : Int)

/-- When an observer does something: at a start or step, the first one it is told of or a later
    one. -/
structure Timing where
  atStart : Bool
  number : Int

/-- What observer there is to be: a `TrajectoryObserver`, a `SolverObserver` that does nothing, or
    one of the scenario's. -/
inductive ObserverSpec where
  | recorder
  | silent
  /-- Notes what it sees, and does something now and then. -/
  | actor (actions : List (Timing × ObserverAction))

/-- The sort of an observer that records nothing. -/
def ObserverSpec.sort? : ObserverSpec → Option String
  | .recorder => none
  | .silent => some "SolverObserver"
  | .actor _ => some "Recorder"

/-- An action as a program, where there are so many observers. -/
def ObserverAction.toProgram (audience : Nat) : ObserverAction → ScenarioProgram Unit
  | .fail cause => .fail cause
  | .step => Program.calling .step
  | .start => Program.calling .start
  | .observe o => do Program.calling (.observe (← Program.orFail (o.place audience)))
  | .setStagnation n => Program.calling (.setStagnation n)

/-- Actions one after another. -/
def ObserverAction.allToProgram (audience : Nat) : List ObserverAction → ScenarioProgram Unit
  | [] => .done ()
  | action :: actions => do
    action.toProgram audience
    ObserverAction.allToProgram audience actions

/-- Whether the news are of a start. -/
def isStart : News Product → Bool
  | .started _ => true
  | .stepped .. => false

/-- Counts one more piece of news. -/
def NewsCount.add (count : NewsCount) (news : News Product) : NewsCount :=
  if isStart news then { count with starts := count.starts + 1 }
  else { count with steps := count.steps + 1 }

/-- How many pieces of news of one sort there were. -/
def NewsCount.ofSort (count : NewsCount) (news : News Product) : Nat :=
  if isStart news then count.starts else count.steps

/-- Notes an event and counts it. -/
def noteEvent (event : Event) (w : World) : World :=
  let count := (w.observers.getD event.observer {}).add event.news
  { w with
    events := w.events.push event
    observers := w.observers.setIfInBounds event.observer count }

/-- What an actor among so many observers does on news: it notes the event, and then does all that
    is due. -/
def act (audience : Nat) (o : ObserverId) (actions : List (Timing × ObserverAction))
    (news : News Product) : ScenarioProgram Unit := do
  let view ← Program.view
  ScenarioProgram.change (noteEvent ⟨o, news, view⟩)
  let number := ((← Program.world).observers.getD o {}).ofSort news
  let due := actions.filter fun (timing, _) =>
    timing.atStart == isStart news && timing.number == (number : Int)
  ObserverAction.allToProgram audience (due.map Prod.snd)

/-- The `Observer` of a number, among so many. -/
def ObserverSpec.build (spec : ObserverSpec) (audience : Nat) (o : ObserverId) :
    Observer World Product :=
  match spec with
  | .recorder => .recorder
  | .silent => .silent
  | .actor actions => .custom (act audience o actions)

/-! ## Stop conditions -/

/-- When a run stops. -/
inductive StopRule where
  | never
  | always
  /-- After so many rejections in a row. -/
  | stagnation (count : Value)
  /-- After so many steps since the start. -/
  | steps (count : Value)
  /-- Once the current solution costs at most so much. -/
  | costAtMost (bound : Value)
  /-- At its so many-th consultation in the run. -/
  | calls (count : Value)
  /-- Fails from its so many-th consultation on. -/
  | failing (count : Value)
  /-- After so many rejections in a row it starts the search anew, until it has no restarts
      left. -/
  | restarting (count : Value)

namespace StopRule

/-- The answer to whether a relation holds. -/
def asks (r : Relation) (x y : Value) : ScenarioProgram Bool := Program.orFail (x.relate r y)

/-- The number of rejections in a row, which a solver that is not a search need not have. -/
def stagnationNow (solver : String) : ScenarioProgram Value := do
  match (← Program.view).stagnation with
  | some n => return .int n
  | none => .fail (.lacks solver "situation_has_not_improved")

/-- The cost of the current solution. -/
def costNow : ScenarioProgram Value := do
  match (← Program.view).current with
  | some item => Program.hook (Hook.costs item)
  | none => .fail (.absent "costs")

/-- What the rule answers at a consultation of the run, given its number and the name of the
    solver. -/
def answer (solver : String) (rule : StopRule) (consultation : Value) : ScenarioProgram Bool := do
  match rule with
  | .never => return false
  | .always => return true
  | .stagnation count => asks .atLeast (← stagnationNow solver) count
  | .steps count => asks .atLeast (.int (← Program.view).steps) count
  | .costAtMost bound => asks .atMost (← costNow) bound
  | .calls count => asks .atLeast consultation count
  | .failing count =>
    if ← asks .atLeast consultation count then
      .fail (.staged "stop failed")
    else return false
  | .restarting count =>
    if ← asks .less (← stagnationNow solver) count then return false
    if (← Program.world).restarts = 0 then return true
    ScenarioProgram.change fun w => { w with restarts := w.restarts - 1 }
    Program.calling .start
    return false

/-- The rule as a program, which counts its consultations in `World.stopCalls`. -/
def toProgram (solver : String) (rule : StopRule) : ScenarioProgram Bool := do
  ScenarioProgram.change fun w => { w with stopCalls := w.stopCalls + 1 }
  rule.answer solver (.int (← Program.world).stopCalls)

end StopRule

end HillClimb.Scenario
