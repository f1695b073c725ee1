import HillClimb.Comparator.Validation
import HillClimb.Scenario.Rules
import HillClimb.Scenario.Report
import HillClimb.Trajectory.Recording

set_option autoImplicit false

/-! # Trials

A trial asks comparators (`compareItems`), acceptance rules (`decideStrictly`), validations
(`validate`) and recordings (`recordEvents`) directly, without a solver, and reports each outcome
with its trace. -/

namespace HillClimb.Scenario

/-- The outcome of something, and the `traceOf` it. -/
structure Traced (α : Type) where
  outcome : Except Failure α
  trace : List String

/-- Runs a hook in a world, with no generators. -/
def traced {α : Type} (h : ScenarioHook α) : StateM World (Traced α) := fun w =>
  let (outcome, state) := h.run ⟨w, #[], #[]⟩
  (⟨outcome, state.probes.toList.filterMap probeLine?⟩, state.world)

/-! ## Comparisons -/

/-- What is asked of two items: the `costs` of the first, its `is_better_than` about the second, and
    the `is_better` and the `compare` of the comparator. -/
structure Comparison where
  costs : Traced Value
  prefers : Traced Bool
  isBetter : Traced Bool
  verdict : Traced Verdict

/-- Asks a comparator, which must be there to have the property. -/
def askComparator {α : Type} (comparator : Option (Comparator World Product)) (property : String)
    (question : Comparator World Product → ScenarioHook α) : ScenarioHook α :=
  match comparator with
  | some c => question c
  | none => throw (.absent property)

/-- Compares two items; the second may be the first one itself. -/
def compareItems (a : ItemSpec) (b : Option ItemSpec) (comparator : Option ComparatorSpec) :
    Comparison :=
  let (comparator, w) := buildComparator? comparator {}
  let (first, w) := w.makeProduct (some a) "a"
  let (second, w) := match b with
    | some spec => w.makeProduct (some spec) "b"
    | none => (first, w)
  let comparison : StateM World Comparison := do
    let costs ← traced (Hook.costs first)
    let prefers ← traced (Hook.prefers first second)
    let isBetter ← traced (askComparator comparator "is_better" (·.isBetter first second))
    let verdict ← traced (askComparator comparator "compare" (·.compare first second))
    return ⟨costs, prefers, isBetter, verdict⟩
  (comparison.run w).1

/-! ## Decisions -/

/-- The decision of the `StrictImprovementAcceptance`, with its own comparator and that of a
    solver. -/
def decideStrictly (own solvers : Option ComparatorSpec) (neighbor current : ItemSpec) :
    Traced Bool :=
  let (own, w) := buildComparator? own {}
  let (neighbor, w) := w.makeProduct (some neighbor) "n"
  let (current, w) := w.makeProduct (some current) "c"
  let (solvers, w) := buildComparator? solvers w
  (traced (Acceptance.strictly own solvers neighbor current) w).1

/-! ## Validations -/

/-- A part of a validation, or the whole: `is_irreflexive`, `is_asymmetric`, `is_transitive` or
    `is_valid`. -/
inductive Check where
  | irreflexivity
  | asymmetry
  | transitivity
  | all
  /-- A check of a name that there is not. -/
  | unknown (name : String)
  deriving DecidableEq, Repr

/-- The first violation that a check finds, by `Comparator.violation?` or a part of it. -/
def Check.violation? (c : Comparator World Product) (sample : List Product) :
    Check → ScenarioHook (Option (Violation Product))
  | .irreflexivity => c.irreflexivity? sample
  | .asymmetry => c.asymmetry? sample
  | .transitivity => c.transitivity? sample
  | .all => c.violation? sample
  | .unknown name => throw (.lacks "ComparatorValidator" name)

/-- What a check finds: whether it is passed, and what is logged if it is not. -/
structure CheckReport where
  passed : Traced Bool
  logs : List LogRecord

/-- The report of one check: its `Finding` and its trace. -/
def checkReport (c : Comparator World Product) (sample : List Product) (level : Int)
    (check : Check) : StateM World CheckReport := do
  let found ← traced (check.violation? c sample)
  let finding := Finding.of (Level.effective level) found.outcome
  return ⟨⟨finding.passed, found.trace⟩, finding.records⟩

/-- The items of some specifications, labelled by their places. -/
def makeAll (specs : List ItemSpec) : StateM World (List Product) :=
  (specs.zipIdx).mapM fun (spec, place) => World.makeProduct (some spec) ("s" ++ toString place)

/-- The items of a sample, which may hold an item more than once; without a sample, all of them. -/
def choose (items : List Product) : Option (List Figure) → Except Failure (List Product)
  | none => .ok items
  | some places => do
    let chosen ← places.mapM (Figure.place items.length)
    return chosen.filterMap (items[·]?)

/-- Runs checks on a sample of items. -/
def validate (specs : List ItemSpec) (sample : Option (List Figure))
    (comparator : Option ComparatorSpec) (checks : List Check) (level : Int) :
    Except Failure (List CheckReport) :=
  let (comparator, w) := buildComparator? comparator {}
  let (items, w) := (makeAll specs).run w
  (choose items sample).map fun chosen =>
    ((checks.mapM (checkReport (comparator.getD .natural) chosen level)).run w).1

/-! ## Recordings -/

/-- A step in the life of a recording. -/
inductive RecordingEvent where
  | started (solution : Option ItemSpec)
  | stepped (neighbor current : Option ItemSpec) (accepted : Bool)
  | reset
  | read

/-- What became of it: it was recorded, or the recording was read. -/
inductive RecordingReport where
  | recorded (outcome : Traced Unit)
  | reading (t : Trajectory)

/-- Records news by `Recording.record`. -/
def recordNews (current : Option Product) (news : News Product) (t : Trajectory) :
    RecordingReport × Trajectory :=
  let (outcome, state) := (Recording.record current news).run ⟨t, #[]⟩
  (.recorded ⟨outcome, state.probes.toList.filterMap probeLine?⟩, state.trajectory)

/-- One event. -/
def recordEvent (t : Trajectory) (w : World) : RecordingEvent → RecordingReport × Trajectory × World
  | .started spec =>
    let (solution, w) := w.makeProduct spec "s"
    let (report, t) := recordNews none (.started (some solution)) t
    (report, t, w)
  | .stepped neighbor current accepted =>
    let (neighbor, w) := w.makeProduct neighbor "n"
    let (current, w) := w.makeProduct current "c"
    let (report, t) := recordNews (some current) (.stepped neighbor accepted) t
    (report, t, w)
  | .reset => (.recorded ⟨.ok (), []⟩, .empty, w)
  | .read => (.reading t, t, w)

/-- All events in order. -/
def recordEvents (t : Trajectory) (w : World) : List RecordingEvent → List RecordingReport
  | [] => []
  | event :: rest =>
    let (report, t, w) := recordEvent t w event
    report :: recordEvents t w rest

end HillClimb.Scenario
