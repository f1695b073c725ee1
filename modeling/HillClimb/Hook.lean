import HillClimb.Random.Generator
import HillClimb.Value.Operations

set_option autoImplicit false

/-! # Solutions and hooks

A solution is a `Candidate`: it has a cost, which may fail to be known, a text, and a `Preference`,
which is how it judges itself against another solution. Solutions never change.

A `Hook` is a piece of code that a caller brings along: a comparator, an acceptance rule, a factory.
It works at a `HookState`: the caller's own world, the random generators, and the list of its
probes, that is, of the questions (`Probe`) it asks of solutions. It may fail, and what it did
before stays done. -/

namespace HillClimb

/-! ## Solutions -/

/-- How a solution tells whether it is better than a certain other one. `lowerCost` is what
    `Solution.is_better_than` does unless a solution has a method of its own. -/
inductive Preference where
  /-- It is better if its cost is strictly lower. -/
  | lowerCost
  /-- It is better if its cost is strictly higher. -/
  | higherCost
  /-- A rule of its own decides, which reads no costs. -/
  | ruled (better : Except Failure Bool)

/-- What every kind of solution provides: the `Solution` of the library. -/
class Candidate (S : Type) where
  costs : S → Except Failure Value
  text : S → String
  /-- How the first solution judges itself against the second. -/
  preference : S → S → Preference

/-! ## Hooks -/

/-- A question asked of solutions. -/
inductive Probe (S : Type) where
  /-- What does it cost? This is a call of `costs()`. -/
  | costs (s : S)
  /-- Is the first, by its own judgement, better than the second? This is a call of
      `is_better_than`. -/
  | better (a b : S)
  /-- Is the first, by a caller's comparator, better than the second? This is a call of the
      comparator's `is_better`. -/
  | compared (a b : S)
  deriving Repr, DecidableEq

/-- What a `Hook` works on. -/
structure HookState (W S : Type) where
  world : W
  generators : Generators
  probes : Array (Probe S)

/-- A piece of code of the caller's, which works at a `HookState` and may fail. -/
abbrev Hook (W S α : Type) := ExceptT Failure (StateM (HookState W S)) α

namespace Hook

variable {W S α : Type}

/-- Runs a hook at a state. -/
def runAt (h : Hook W S α) (state : HookState W S) : Except Failure α × HookState W S := h.run state

/-- Writes the question `p` down. -/
def ask (p : Probe S) : Hook W S Unit :=
  modify fun state => { state with probes := state.probes.push p }

/-- A result that needs no state. -/
def ofExcept (result : Except Failure α) : Hook W S α := ExceptT.mk (pure result)

/-- The caller's world. -/
def world : Hook W S W := return (← get).world

/-- Changes the caller's world by `f`. -/
def change (f : W → W) : Hook W S Unit :=
  modify fun state => { state with world := f state.world }

/-- Draws from the generator of the number `id`. -/
def draw (id : GeneratorId) (d : Draw α) : Hook W S α :=
  ExceptT.mk fun state =>
    match state.generators[id]? with
    | none => (.error .nothingToChoose, state)
    | some g =>
      let (result, g) := d.run g
      (result, { state with generators := state.generators.setIfInBounds id g })

variable [Candidate S]

/-- Asks for the cost of a solution. -/
def costs (s : S) : Hook W S Value := do
  ask (.costs s)
  ofExcept (Candidate.costs s)

/-- Compares the costs of `a` and `b` by `r`, asking for that of `a` first. -/
def relateCosts (r : Relation) (a b : S) : Hook W S Bool := do
  let x ← costs a
  let y ← costs b
  ofExcept (x.relate r y)

/-- Whether `a` prefers itself to `b`, by its `Candidate.preference`. -/
def prefers (a b : S) : Hook W S Bool := do
  ask (.better a b)
  match Candidate.preference a b with
  | .lowerCost => relateCosts .less a b
  | .higherCost => relateCosts .greater a b
  | .ruled better => ofExcept better

end Hook

end HillClimb
