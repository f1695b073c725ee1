import HillClimb.Number.Width
import HillClimb.Value.Shape
import HillClimb.Value.Conversion

set_option autoImplicit false

/-! # Readings

A `Reading` is the array that `costs`, `neighbor_costs` or `accepted` of a `TrajectoryObserver`
return. All elements of an array are of one `ElementKind`: `ElementKind.ofValues` joins those of the
values. Tuples of equal length make further dimensions (`shapeOf`). Values are turned into the kind
of the array (`ElementKind.convert`), so a reading may hold less than was recorded: an integer next
to a floating-point number is read as the floating-point number nearest to it. -/

namespace HillClimb

/-- The `dtype` of an array. -/
inductive ElementKind where
  | bool
  | int64
  | uint64
  | float64
  | text (width : Nat)
  | object
  deriving DecidableEq, Repr

namespace ElementKind

/-- The name of a kind; a `text` is at least one character wide. -/
def name : ElementKind → String
  | .bool => "bool"
  | .int64 => "int64"
  | .uint64 => "uint64"
  | .float64 => "float64"
  | .text width => "<U" ++ toString (max 1 width)
  | .object => "object"

/-- The width of the `text` elements that elements of a kind are turned into. -/
def textWidth : ElementKind → Nat
  | .bool => 5
  | .int64 => 21
  | .uint64 => 20
  | .float64 => 32
  | .text width => width
  | .object => 0

/-- The kind that both kinds can be turned into. -/
def join : ElementKind → ElementKind → ElementKind
  | .object, _ => .object
  | _, .object => .object
  | .text width, k => .text (max width k.textWidth)
  | k, .text width => .text (max width k.textWidth)
  | .bool, k => k
  | k, .bool => k
  | .int64, .int64 => .int64
  | .uint64, .uint64 => .uint64
  | _, _ => .float64

/-- The kind of an array of this value alone. -/
def ofValue : Value → ElementKind
  | .bool _ => .bool
  | .int n =>
    if Width.machine.holds n then .int64
    else if Width.unsignedMachine.holds n then .uint64
    else .object
  | .real _ => .float64
  | .text s => .text s.length
  | .none => .object
  | .tuple _ => .object

/-- The kind that joins those of some values; without values it is `float64`. -/
def ofValues : List Value → ElementKind
  | [] => .float64
  | v :: vs => vs.foldl (fun k w => k.join (ofValue w)) (ofValue v)

/-- A number or truth value as a floating-point number, rounded to the nearest
    (`Binary64.ofInt`). -/
def toReal : Value → Value
  | .int n => .real (Binary64.ofInt n)
  | .bool b => .real (Binary64.ofInt b.toInt)
  | v => v

/-- A text without the empty characters at its end, which an array does not keep. -/
def trimmed (s : String) : String :=
  String.ofList (s.toList.reverse.dropWhile (· == Char.ofNat 0)).reverse

/-- A value as an element of a kind. Integers next to texts fit a machine word, so `Value.toText?`
    gives a text. -/
def convert : ElementKind → Value → Value
  | .int64, .bool b => .int b.toInt
  | .uint64, .bool b => .int b.toInt
  | .float64, v => toReal v
  | .text _, v => .text (trimmed (v.toText?.getD ""))
  | _, v => v

end ElementKind

/-- An array of elements of one `ElementKind`; its rows are tuples. -/
structure Reading where
  kind : ElementKind
  shape : List Nat
  values : List Value
  deriving Repr

namespace Reading

mutual

/-- A value or row with all its elements turned into a kind by `ElementKind.convert`. -/
def convertDeep (kind : ElementKind) : Value → Value
  | .tuple items => .tuple (convertAll kind items)
  | v => kind.convert v

/-- Values and rows with all their elements turned into a kind. -/
def convertAll (kind : ElementKind) : List Value → List Value
  | [] => []
  | v :: vs => convertDeep kind v :: convertAll kind vs

end

/-- The array of some recorded values. It fails where `shapeOf` does. -/
def ofValues (values : List Value) : Except Failure Reading := do
  let shape ← shapeOf values
  let kind := ElementKind.ofValues (leavesOfAll values)
  return ⟨kind, shape, convertAll kind values⟩

/-- The array of some flags, whose `ElementKind` is always `bool`. -/
def ofBools (flags : List Bool) : Reading := ⟨.bool, [flags.length], flags.map .bool⟩

end Reading

end HillClimb
