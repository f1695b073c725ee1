import HillClimb.Number.Width
import HillClimb.Random.Twister
import HillClimb.Value.Operations

set_option autoImplicit false

/-! # Random generators

A `Generator` is a twister, or a list of values that is handed out over and over whatever is asked
for, which makes a search predictable. Generators are kept side by side and named by their number
(`GeneratorId`), since several solvers may draw from one.

A `Draw` is one call of a method of a generator: `random`, `getrandbits` (`Generator.bits`),
`randint` (`Generator.between`), `randrange` (`Generator.below` and `Generator.stepping`), `choice`,
`uniform` or `shuffle`. -/

namespace HillClimb

/-- A source of random values: a `Twister`, or a list that is gone through over and over. -/
inductive Generator where
  | twister (state : Twister)
  | cycle (values : Array Value) (handedOut : Nat)
  deriving Inhabited

/-- The number by which a generator is known. -/
abbrev GeneratorId := Nat

/-- All generators, by their number. -/
abbrev Generators := Array Generator

/-- A draw from a `Generator`, which may be refused. -/
abbrev Draw (α : Type) := ExceptT Failure (StateM Generator) α

namespace Generator

/-- The generator of a seed, as `make_rng` makes it. -/
def ofSeed (seed : Int) : Generator := .twister (Twister.ofSeed seed)

/-- The generator that hands out a list of values. -/
def ofList (values : List Value) : Generator := .cycle values.toArray 0

/-- A draw from the twister, or the next value of the list. An empty list has none, which is
    `Failure.zeroModulus`. -/
def drawing (draw : Twister → Value × Twister) : Draw Value := do
  match ← get with
  | .twister t =>
    let (v, t) := draw t
    set (Generator.twister t)
    return v
  | .cycle values n =>
    set (Generator.cycle values (n + 1))
    match values[n % values.size]? with
    | some v => return v
    | none => throw .zeroModulus

/-- The sort of a generator that hands out a list, as `Failure.lacks` names it. -/
def cycleSort : String := "StubRng"

/-- A draw of the given name that only a twister answers; a list fails with `Failure.lacks`. -/
def drawingBits {α : Type} (name : String) (draw : Twister → α × Twister) : Draw α := do
  match ← get with
  | .twister t =>
    let (v, t) := draw t
    set (Generator.twister t)
    return v
  | .cycle .. => throw (.lacks cycleSort name)

/-- A result that needs no generator. -/
def ofExcept {α : Type} (result : Except Failure α) : Draw α := ExceptT.mk (pure result)

/-- A fraction from zero to below one: `random()`. -/
def random : Draw Value :=
  drawing fun t =>
    let (numerator, t) := t.fraction
    (.real (Binary64.ofRatio numerator (pow2 53)), t)

/-- The width of the word that counts bits. -/
def countWidth : Width := ⟨true, 32⟩

/-- An integer of `count` bits: `getrandbits(count)`. -/
def bits (count : Int) : Draw Nat := do
  if !countWidth.holds count then throw (.beyondWord .count)
  if count < 0 then throw .negativeBits
  drawingBits "getrandbits" fun t => t.bits count.toNat

/-- An integer between two bounds, both included: `randint(low, high)`. -/
def between (low high : Int) : Draw Value := do
  match ← get with
  | .twister _ => if high < low then throw (.emptyBetween low high)
  | .cycle .. => pure ()
  drawing fun t =>
    let (n, t) := t.below (high + 1 - low).toNat
    (.int (low + n), t)

/-- A natural number below a bound: `randrange(bound)`. -/
def below (bound : Int) : Draw Nat := do
  if bound ≤ 0 then throw .emptyBelow
  drawingBits "randrange" fun t => t.below bound.toNat

/-- A number from one bound on and below another, in steps from the first: `randrange` with three
    arguments. -/
def stepping (start stop step : Int) : Draw Value := do
  if step = 1 then between start (stop - 1)
  else if step = 0 then throw .zeroStep
  else
    let count := (stop - start + step - step.sign).fdiv step
    return .int (start + step * (← below count))

/-- The place of one out of `count` things: `choice`. -/
def choice (count : Int) : Draw Nat := do
  if Width.machine.bound ≤ count then throw (.beyondWord .size)
  if count ≤ 0 then throw .nothingToChoose
  below count

/-- A number between two values: the first plus a random part of their difference. This is
    `uniform(low, high)`. -/
def uniform (low high : Value) : Draw Value := do
  let span ← ofExcept (high.minus low)
  let part ← random
  let offset ← ofExcept (span.times part)
  ofExcept (low.plus offset)

/-- One pass of exchanges, from the last place down: each place trades with one not behind it. -/
def shuffleFrom {α : Type} : Nat → Array α → Twister → Array α × Twister
  | 0, items, t => (items, t)
  | place + 1, items, t =>
    let (other, t) := t.below (place + 2)
    shuffleFrom place (items.swapIfInBounds (place + 1) other) t

/-- The things in a random order: `shuffle`. -/
def shuffle {α : Type} (items : Array α) : Draw (Array α) :=
  drawingBits "shuffle" fun t => shuffleFrom (items.size - 1) items t

/-- The least number of things for which there is no room. -/
def crowd : Int := pow2 33

/-- The numbers below `count` in a random order. -/
def arrangement (count : Int) : Draw (Array Nat) := do
  if Width.machine.bound ≤ count then throw (.beyondWord .size)
  if crowd ≤ count then throw .noRoom
  shuffle (Array.range count.toNat)

end Generator

end HillClimb
