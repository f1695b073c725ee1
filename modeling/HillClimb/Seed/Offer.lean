import HillClimb.Seed.Scalar
import HillClimb.Value.Shape
import HillClimb.Value.Conversion

set_option autoImplicit false

/-! # Offers

An offer is a thing that a caller holds out as a seed: a plain value, a mapping, a scalar, an array,
or an object that answers for its index. Scalars and arrays are made of other offers, and the making
may fail. Main definitions:

* `Offer.index`: the integer that an offer stands for, or the `Refusal` of one that stands for none.
* `Offer.toScalar` and `Offer.toArray`: the scalars and arrays that are made of offers. -/

namespace HillClimb

/-- What a caller may offer as a seed, that is, hand to `validate_seed`. -/
inductive Offer where
  /-- A plain value. -/
  | value (v : Value)
  | mapping
  | tuple (items : List Offer)
  /-- A scalar, with the value that it has. -/
  | scalar (type : ScalarType) (v : Value)
  /-- An array without dimensions, with the one thing that is in it. -/
  | cell (content : Offer)
  /-- An array with dimensions, by their lengths. -/
  | grid (lengths : List Nat)
  /-- An object that gives an answer when its `__index__` is called. -/
  | indexed (answer : Offer)
  /-- An object whose `__index__` fails. -/
  | failing (cause : Failure)
  deriving Repr

namespace Offer

/-! ## Sorts -/

/-- The name of an offer's sort. -/
def sort : Offer → String
  | .value v => v.kind.name
  | .mapping => "dict"
  | .tuple _ => "tuple"
  | .scalar type _ => type.name
  | .cell _ => "ndarray"
  | .grid _ => "ndarray"
  | .indexed _ => "IndexLike"
  | .failing _ => "IndexLike"

/-- The name of an offer's sort with the place where it is at home. -/
def fullSort : Offer → String
  | .scalar type _ => "numpy." ++ type.name
  | .cell _ => "numpy.ndarray"
  | .grid _ => "numpy.ndarray"
  | o => o.sort

/-! ## The index of an offer -/

/-- Why an offer has no `Offer.index`: it is of the wrong kind, or it failed for a reason of its
    own. -/
inductive Refusal where
  | kind
  | failure (cause : Failure)
  deriving DecidableEq, Repr

/-- The integer that an object answered with when its `__index__` was called. -/
def answered? : Offer → Option Int
  | .value v => v.integer?
  | _ => none

/-- The integer that an offer stands for as it is, by its `__index__`. An array stands for
    the only thing in it, if that is a scalar. -/
def index : Offer → Except Refusal Int
  | .value v => v.integer?.elim (.error .kind) .ok
  | .scalar (.integer _) (.int n) => .ok n
  | .cell (.scalar (.integer _) (.int n)) => .ok n
  | .indexed answer => answer.answered?.elim (.error .kind) .ok
  | .failing cause => .error (if cause.isKindFault then .kind else .failure cause)
  | _ => .error .kind

/-! ## Arrays -/

mutual

/-- The tuples that an offer is laid out as in an array, with nothing in place of all else. -/
def layout : Offer → Value
  | .value v => v
  | .tuple items => .tuple (layoutAll items)
  | .grid lengths => lengths.foldr (fun length row => .tuple (List.replicate length row)) .none
  | _ => .none

/-- The layouts of some offers, in order. -/
def layoutAll : List Offer → List Value
  | [] => []
  | o :: rest => o.layout :: layoutAll rest

end

mutual

/-- The offers in an offer that are neither tuples nor arrays of them, in order: what `layout`
    leaves out. -/
def leaves : Offer → List Offer
  | .value v => v.leaves.map .value
  | .tuple items => leavesAll items
  | .grid _ => []
  | o => [o]

/-- The leaves of some offers, in order. -/
def leavesAll : List Offer → List Offer
  | [] => []
  | o :: rest => o.leaves ++ leavesAll rest

end

/-- The lengths of the dimensions of an offer that is laid out as an array. -/
def dimensions (o : Offer) : Except Failure (List Nat) :=
  match o.layout with
  | .tuple items => shapeOf items
  | _ => .ok []

/-- The thing in an array that is made of something without dimensions. Plain values become scalars
    where there is a type for them, an integer one of `Width.machine` if it fits. -/
def held : Offer → Offer
  | .cell content => content
  | .value (.int n) =>
    if Width.machine.holds n then .scalar (.integer Width.machine) (.int n)
    else if Width.unsignedMachine.holds n then .scalar (.integer Width.unsignedMachine) (.int n)
    else .value (.int n)
  | .value (.real x) => .scalar (.real 64) (.real x)
  | .value (.bool b) => .scalar .bool (.bool b)
  | .value (.text s) => .scalar .text (.text s)
  | o => o

/-- The array that is made of an offer. -/
def toArray (o : Offer) : Except Failure Offer := do
  let lengths ← o.dimensions
  return if lengths.isEmpty then .cell o.held else .grid lengths

/-! ## Scalars -/

/-- The `Offer.index` of an object that is asked for it because an integer is needed. -/
def answer (o : Offer) : Except Failure Int :=
  o.answered?.elim (.error (.wrongIndex o.fullSort)) .ok

/-- The integer of a type that is made of an offer without dimensions. -/
def integerOf (width : Width) : Offer → Except Failure Int
  | .value v => ScalarType.integerOf width v
  | .scalar _ v => ScalarType.castInteger width v
  | .cell content => content.integerOf width
  | .indexed o => do ScalarType.fitted width (← o.answer)
  | .failing cause => .error cause
  | o => .error (.neverInteger o.sort)

/-- The floating-point number that is made of an offer without dimensions. -/
def realOf : Offer → Except Failure Binary64
  | .value v => ScalarType.realOf v
  | .scalar _ v => ScalarType.castReal v
  | .cell content => content.realOf
  | .indexed o => do ScalarType.realOf (.int (← o.answer))
  | .failing cause => .error cause
  | o => .error (.neverNumber o.sort)

/-- The plain value that an offer without dimensions has; all else has the value nothing. -/
def plain : Offer → Value
  | .value v => v
  | .scalar _ v => v
  | .cell content => content.plain
  | _ => .none

/-- The scalar of a type that is made of an offer without dimensions. -/
def single (type : ScalarType) (o : Offer) : Except Failure Offer :=
  match type with
  | .integer width => do return .scalar type (.int (← o.integerOf width))
  | .real bits => do return .scalar type (.real (ScalarType.rounded bits (← o.realOf)))
  | .bool => .ok (.scalar type (.bool o.plain.isTrue))
  | .text => o.plain.toText?.elim (.error .unwritable) fun text => .ok (.scalar type (.text text))

/-- Makes a scalar of each offer by `single`, for the failures that this has. -/
def checkEach (type : ScalarType) : List Offer → Except Failure Unit
  | [] => .ok ()
  | o :: rest => do
    let _ ← o.single type
    checkEach type rest

/-- The scalar that is made of an offer, or the array of `toArray` if the offer has dimensions. A
    text is made of anything as a whole. -/
def toScalar (type : ScalarType) (o : Offer) : Except Failure Offer :=
  if type = .text then o.single type
  else do
    let lengths ← o.dimensions
    if lengths.isEmpty then o.single type
    else
      checkEach type o.leaves
      return .grid lengths

end Offer

end HillClimb
