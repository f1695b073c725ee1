import HillClimb.Comparator.Basic
import HillClimb.Seed
import HillClimb.Solver.Lifecycle

set_option autoImplicit false

/-! # Local search

The `LocalSearchSolver` of the library: `LocalSearch.method` is its way to search, and `Solver.new`
makes it.

* `LocalSearch.start` goes to a new initial solution (`_do_initialize`).
* `LocalSearch.move` creates a neighbour, which takes the place of the current solution if the
  `Acceptance` rule accepts it and counts as one more rejection in a row otherwise (`_do_step`).

Solutions come from a `Factory`, or from makers that take its place. A hook that fails before the
decision leaves the search as it was. The records for debugging show costs, which are asked for
after the change. -/

namespace HillClimb

variable {W S : Type}

/-! ## Acceptance -/

/-- What an acceptance rule reads of the solver that asks it: the `solver` that `accepts` is
    given. -/
structure AskingSolver (W S : Type) where
  phase : Phase
  steps : Int
  current : Option S
  stagnation : Int
  comparator : Option (Comparator W S)
  generator : GeneratorId

/-- An acceptance rule: the `AcceptanceStrategy` of the library. -/
inductive Acceptance (W S : Type) where
  /-- Accepts what is strictly better, so a tie keeps the current solution: the
      `StrictImprovementAcceptance`. It asks its own comparator if that `counts`, else the solver's
      if that counts, else the natural one. -/
  | strict (comparator : Option (Comparator W S))
  /-- A rule of the caller's. -/
  | custom (accepts : S → Option S → AskingSolver W S → Hook W S Bool)

namespace Acceptance

/-- Whether the rule is the caller's. -/
def isCustom : Acceptance W S → Bool
  | .strict _ => false
  | .custom _ => true

variable [Candidate S]

/-- The decision of the strict rule. -/
def strictly (own solvers : Option (Comparator W S)) (neighbor current : S) : Hook W S Bool :=
  (Comparator.firstCounting [own, solvers]).isBetter neighbor current

/-- Whether the neighbour is to take the place of the current solution: the `accepts` of the
    rule. -/
def accepts (a : Acceptance W S) (neighbor : S) (current : Option S) (solver : AskingSolver W S) :
    Hook W S Bool :=
  match a, current with
  | .custom accepts, _ => accepts neighbor current solver
  | .strict own, some current => strictly own solver.comparator neighbor current
  | .strict _, none => throw (.absent "costs")

end Acceptance

/-! ## The search -/

variable [Candidate S]

/-- What makes solutions: the `SolutionFactory` of the library. It draws from the generator of the
    solver. -/
structure Factory (W S : Type) where
  /-- This is `create_initial`. -/
  createInitial : GeneratorId → Hook W S S
  /-- This is `create_neighbor`. -/
  createNeighbor : Option S → GeneratorId → Hook W S S

/-- The inner state of a local search. -/
structure LocalSearch (W S : Type) where
  factory : Option (Factory W S)
  /-- Makes the initial solution in the factory's place. -/
  initialMaker : Option (Hook W S S)
  /-- Makes a neighbour in the factory's place, from the number of steps and the current
      solution. -/
  neighborMaker : Option (Int → Option S → Hook W S S)
  comparator : Option (Comparator W S)
  acceptance : Option (Acceptance W S)
  current : Option S
  stagnation : Int

namespace LocalSearch

/-- A search before its start. Without a comparator each solution judges for itself, and without
    an acceptance rule the strict one holds, with the comparator that is chosen here. -/
def new (factory : Option (Factory W S)) (comparator : Option (Comparator W S))
    (acceptance : Option (Acceptance W S)) : LocalSearch W S :=
  let comparator := comparator.getD .natural
  { factory
    initialMaker := none
    neighborMaker := none
    comparator := some comparator
    acceptance := some (acceptance.getD (.strict (some comparator)))
    current := none
    stagnation := 0 }

/-- What an acceptance rule reads of the solver. -/
def asking (s : Solver (LocalSearch W S)) : AskingSolver W S :=
  { phase := s.phase
    steps := s.steps
    current := s.inner.current
    stagnation := s.inner.stagnation
    comparator := s.inner.comparator
    generator := s.generator }

/-- Changes the state of the search. -/
def change (f : LocalSearch W S → LocalSearch W S) : Action W (LocalSearch W S) S Unit :=
  Action.changeSolver fun s => { s with inner := f s.inner }

/-- The factory, without which the search fails. -/
def requireFactory : Action W (LocalSearch W S) S (Factory W S) := do
  let s := (← get).solver
  match s.inner.factory with
  | some factory => return factory
  | none => Action.fail (.noFactory s.name)

/-- A new initial solution. -/
def createInitial : Action W (LocalSearch W S) S S := do
  let s := (← get).solver
  match s.inner.initialMaker with
  | some make => Action.hook make
  | none =>
    let factory ← requireFactory
    Action.note .initialAsked
    Action.hook (factory.createInitial s.generator)

/-- A new neighbour of the current solution. -/
def createNeighbor : Action W (LocalSearch W S) S S := do
  let s := (← get).solver
  match s.inner.neighborMaker with
  | some make => Action.hook (make s.steps s.inner.current)
  | none =>
    let factory ← requireFactory
    Action.note (.neighborAsked s.inner.current)
    Action.hook (factory.createNeighbor s.inner.current s.generator)

/-- Whether the acceptance rule takes the neighbour. -/
def decide (neighbor : S) : Action W (LocalSearch W S) S Bool := do
  let s := (← get).solver
  match s.inner.acceptance with
  | none => Action.fail (.absent "accepts")
  | some rule =>
    Action.note (.acceptanceAsked rule.isCustom neighbor s.inner.current)
    Action.hook (rule.accepts neighbor s.inner.current (asking s))

/-- Fails unless there is a solution. -/
def present : Option S → Action W (LocalSearch W S) S S
  | some s => return s
  | none => Action.fail (.absent "costs")

/-- Writes a record for debugging whose arguments are the cost of a solution and some further
    texts. The cost is asked for only if such records are written. -/
def debugCost (solution : Option S) (message : String) (further : List String) :
    Action W (LocalSearch W S) S Unit := do
  if (← get).level ≤ Level.debug then
    let cost ← Action.hook (Hook.costs (← present solution))
    Action.log Level.debug .search message (cost.toText? :: further.map some)

/-- Goes to an initial solution. -/
def settle (initial : S) : Action W (LocalSearch W S) S Unit := do
  Action.note (.started initial)
  change fun s => { s with current := some initial, stagnation := 0 }

/-- What is told of a start: the cost of the initial solution, and its text. -/
def startMessage : String := "Solução inicial com custo %s criada: %s"

/-- Goes to a new initial solution. -/
def start : Action W (LocalSearch W S) S Unit := do
  let initial ← createInitial
  settle initial
  debugCost (some initial) startMessage [Candidate.text initial]

/-- Goes to a neighbour that was accepted, or counts one that was rejected. -/
def conclude (neighbor : S) (accepted : Bool) : Action W (LocalSearch W S) S Unit := do
  Action.note (.decided neighbor accepted)
  change fun s =>
    if accepted then { s with current := some neighbor, stagnation := 0 }
    else { s with stagnation := s.stagnation + 1 }

/-- What is told of a step: the cost of the solution that it ends at. -/
def stepMessage (accepted : Bool) : String :=
  if accepted then "Vizinho melhor encontrado. Novo custo: %s"
  else "Vizinho não é melhor que a solução corrente. Custo permanece %s"

/-- Tries a neighbour. -/
def move : Action W (LocalSearch W S) S (S × Bool) := do
  let neighbor ← createNeighbor
  let accepted ← decide neighbor
  conclude neighbor accepted
  debugCost (← get).solver.inner.current (stepMessage accepted) []
  return (neighbor, accepted)

/-- Local search as a way to search. -/
def method : Method W (LocalSearch W S) S where
  start := start
  move := move
  current := (·.current)
  stagnation s := some s.stagnation
  setStagnation n s := { s with stagnation := n }

end LocalSearch

/-! ## Making solvers -/

/-- A new solver before its start. Its seed is the one given, or else taken from the clock; it
    draws from the generator given, or else from a new one of its own, made from the seed. -/
def Solver.new {I : Type} (name : String) (seed : Option Offer) (clock : Value)
    (generator : Option GeneratorId) (observers : Array ObserverId) (inner : I)
    (generators : Generators) : Except Failure (Solver I × Generators) := do
  let seed ← match seed with
    | some offer => offer.validate
    | none => Seed.ofClock clock
  let (generator, generators) := match generator with
    | some id => (id, generators)
    | none => (generators.size, generators.push (Generator.ofSeed seed))
  return (⟨name, seed, generator, observers, 0, .uninitialized, inner⟩, generators)

end HillClimb
