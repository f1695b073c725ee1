import HillClimb.Random.Generator
import HillClimb.Seed.Offer

set_option autoImplicit false

/-! # Seeds

A seed is a signed integer of 64 bits. An offer is taken as a seed if it can serve as an index, that
is, if it stands for one integer without loss, and if it is not a truth value. A caller describes
what is offered by an argument, of which the offer is made first. Main definitions:

* `Offer.validate`: takes or refuses an offer, as `validate_seed` does.
* `SeedArgument.make`: makes what an argument describes, and `SeedArgument.validate` then takes or
  refuses it.
* `Seed.ofClock`: the seed that `make_seed` takes from the clock. -/

namespace HillClimb

/-! ## The range of seeds -/

namespace Seed

/-- The number of bits of a seed. -/
def bits : Nat := 64

def least : Int := -(pow2 (bits - 1) : Int)

def greatest : Int := (pow2 (bits - 1) : Int) - 1

/-- The seed of a moment, as `make_seed` takes it: the seconds of the clock since the epoch, in
    milliseconds cut to an integer. -/
def ofClock (seconds : Value) : Except Failure Int := do
  (← seconds.times (.int 1000)).toInteger

end Seed

/-! ## Taking a seed -/

/-- The seed that an offer stands for, as `validate_seed` finds it. A truth value is no seed, though
    it has an index. An offer of the wrong kind fails with `Failure.seedKind`, an integer that does
    not fit with `Failure.seedRange`, and a failure of the offer's own comes out as it is. -/
def Offer.validate (o : Offer) : Except Failure Int :=
  if o matches .value (.bool _) then .error (.seedKind o.sort)
  else
    match o.index with
    | .error .kind => .error (.seedKind o.sort)
    | .error (.failure cause) => .error cause
    | .ok n => if Seed.least ≤ n ∧ n ≤ Seed.greatest then .ok n else .error (.seedRange n)

/-! ## Describing an offer -/

/-- A description of what is offered as a seed, of which `SeedArgument.make` makes an `Offer`. -/
inductive SeedArgument where
  /-- A plain value. -/
  | value (v : Value)
  | mapping
  | tuple (items : List SeedArgument)
  /-- A scalar that is made of something. -/
  | scalar (type : ScalarType) (source : SeedArgument)
  /-- An array that is made of something. -/
  | array (source : SeedArgument)
  /-- An object whose answer is made when it is asked for its `__index__`. -/
  | indexed (answer : SeedArgument)
  /-- A thing that cannot be made. -/
  | broken (cause : Failure)
  deriving Inhabited

namespace SeedArgument

mutual

/-- Makes what an argument describes, from the inside out. The answer of an object is made only when
    the object is asked for its index, so if it cannot be made, that is where the failure shows. -/
def make : SeedArgument → Except Failure Offer
  | .value v => .ok (.value v)
  | .mapping => .ok .mapping
  | .tuple items => (makeAll items).map .tuple
  | .scalar type source => do (← source.make).toScalar type
  | .array source => do (← source.make).toArray
  | .indexed answer =>
    match answer.make with
    | .ok o => .ok (.indexed o)
    | .error cause => .ok (.failing cause)
  | .broken cause => .error cause

/-- Makes what some arguments describe, in order. -/
def makeAll : List SeedArgument → Except Failure (List Offer)
  | [] => .ok []
  | argument :: rest => do return (← argument.make) :: (← makeAll rest)

end

/-- The seed that an argument describes: what is made of it, validated by `Offer.validate`. -/
def validate (argument : SeedArgument) : Except Failure Int := do
  (← argument.make).validate

end SeedArgument

end HillClimb
