import HillClimb.Scenario.World
import HillClimb.Solver.LocalSearch

set_option autoImplicit false

/-! # Comparators and acceptance rules of a scenario

`ComparatorSpec.build` and `AcceptanceSpec.build` make a `Comparator` and an `Acceptance` of a
description. The rules of a scenario look at labels before anything else, so a comparator that is
asked about nothing fails before it counts the call, and so does an acceptance rule that is offered
nothing (`offered`). -/

namespace HillClimb.Scenario

/-! ## Comparators -/

/-- What a comparator of the scenario answers. -/
inductive ComparatorRule where
  | always
  | never
  /-- Whether the two are different items. -/
  | distinct
  /-- Whether the first costs at most as much as the second. -/
  | notWorse
  /-- Whether the two labels are listed, in this order. -/
  | table (pairs : List (String × String))
  /-- Fails from a certain call on, and answers no before. -/
  | failing (start : Value) (cause : Failure)

/-- What comparator there is to be: one of the library's, or one with a `ComparatorRule`. -/
inductive ComparatorSpec where
  | natural
  | cost (minimize : Bool)
  | custom (counts : Bool) (rule : ComparatorRule)

/-- The answer of a rule, which counts its calls by `countCall` under a number. -/
def ComparatorRule.better (counter : Nat) (rule : ComparatorRule) (a b : Product) :
    ScenarioHook Bool := do
  let labels := (← Hook.ofExcept a.label, ← Hook.ofExcept b.label)
  match rule with
  | .always => return true
  | .never => return false
  | .distinct => return !a.isSame b
  | .notWorse => Hook.relateCosts .atMost a b
  | .table pairs => return pairs.contains labels
  | .failing start cause =>
    let count ← countCall counter
    if ← Hook.ofExcept ((Value.int count).relate .atLeast start) then throw cause
    return false

/-- The comparator, with a counter of its own (`World.addCounter`). -/
def ComparatorSpec.build (spec : ComparatorSpec) (w : World) : Comparator World Product × World :=
  match spec with
  | .natural => (.natural, w)
  | .cost minimize => (.cost minimize, w)
  | .custom counts rule =>
    let (counter, w) := w.addCounter
    (.custom counts (rule.better counter), w)

/-! ## Acceptance rules -/

/-- What acceptance rule there is to be: the `Acceptance.strict` one or one of the scenario's. -/
inductive AcceptanceSpec where
  | strict (comparator : Option ComparatorSpec)
  | all
  | none
  /-- The answers, or failures, to its calls in order; no answer is a no. -/
  | script (answers : List (Except Failure Bool))
  /-- Takes anything once there were so many rejections in a row. -/
  | patient (stagnation : Value)
  /-- Takes the neighbour if a random fraction is below a probability. -/
  | coin (probability : Value)

/-- The comparator, if there is to be one. -/
def buildComparator? (spec : Option ComparatorSpec) (w : World) :
    Option (Comparator World Product) × World :=
  match spec with
  | some spec =>
    let (c, w) := spec.build w
    (some c, w)
  | none => (none, w)

/-- Takes anything after `enough` rejections in a row, and what the solver's comparator finds better
    before. -/
def patiently (enough : Value) (neighbor : Product) (current : Option Product)
    (solver : AskingSolver World Product) : ScenarioHook Bool := do
  if ← Hook.ofExcept ((Value.int solver.stagnation).relate .atLeast enough) then return true
  match current with
  | some current => Acceptance.strictly none solver.comparator neighbor current
  | none => throw (.absent "costs")

/-- An acceptance rule of the scenario, which is offered items only. -/
def offered
    (accepts : Product → Option Product → AskingSolver World Product → ScenarioHook Bool) :
    Acceptance World Product :=
  .custom fun neighbor current solver => do
    let _ ← Hook.ofExcept neighbor.label
    accepts neighbor current solver

/-- The acceptance rule, with a counter of its own. -/
def AcceptanceSpec.build (spec : AcceptanceSpec) (w : World) : Acceptance World Product × World :=
  match spec with
  | .strict comparator =>
    let (c, w) := buildComparator? comparator w
    (.strict c, w)
  | .all => (offered fun _ _ _ => return true, w)
  | .none => (offered fun _ _ _ => return false, w)
  | .script answers =>
    let (counter, w) := w.addCounter
    (offered fun _ _ _ => do
      let count ← countCall counter
      Hook.ofExcept ((answers[count - 1]?).getD (.ok false)), w)
  | .patient enough => (offered (patiently enough), w)
  | .coin probability =>
    (offered fun _ _ solver => do
      let drawn ← Hook.draw solver.generator Generator.random
      Hook.ofExcept (drawn.relate .less probability), w)

end HillClimb.Scenario
