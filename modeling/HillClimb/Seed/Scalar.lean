import HillClimb.Number.Width
import HillClimb.Value.Conversion

set_option autoImplicit false

/-! # Scalars of fixed width

A scalar is a number, a truth value or a text of a type. It is made of a plain value, and the making
may fail: a text must be a numeral, and an integer must fit its type, also one that another value
was turned into. Made of another scalar, it is a cast, in which an integer keeps the bits for which
there is room. Main definitions: `ScalarType.integerOf` and `ScalarType.realOf`, which make numbers
of plain values, and `ScalarType.castInteger` and `ScalarType.castReal`, which make them of other
scalars. -/

namespace HillClimb

/-- A type of scalars. -/
inductive ScalarType where
  | integer (width : Width)
  | real (bits : Nat)
  | bool
  | text
  deriving DecidableEq, Repr

namespace ScalarType

/-- The name of a type. -/
def name : ScalarType → String
  | .integer ⟨true, bits⟩ => "int" ++ toString bits
  | .integer ⟨false, bits⟩ => "uint" ++ toString bits
  | .real bits => "float" ++ toString bits
  | .bool => "bool"
  | .text => "str_"

/-- The text of a scalar between its quotes, with the mark of a scalar. -/
def quotedScalar (s : String) : String := "np.str_(" ++ quoted s ++ ")"

/-! ## Integers -/

/-- Whether an integer can be handed over as a word: a signed one of 64 bits, or an unsigned one
    for the wider unsigned types. -/
def fitsWord (width : Width) (n : Int) : Bool :=
  Width.machine.holds n ||
    (!width.signed && 32 ≤ width.bits && Width.unsignedMachine.holds n)

/-- The integer as one of a type, which must have it. -/
def fitted (width : Width) (n : Int) : Except Failure Int := do
  if !fitsWord width n then throw (.beyondWord .long)
  if !width.holds n then throw (.beyondScalar n (ScalarType.integer width).name)
  return n

/-- The integer of a type that is made of a plain value. -/
def integerOf (width : Width) (v : Value) : Except Failure Int := do
  fitted width (← v.toInteger)

/-- The word in which the fraction of a number is cut off on the way to a type. -/
def cutWidth (width : Width) : Width :=
  if width.bits < 32 ∨ width = ⟨true, 32⟩ then ⟨true, 32⟩
  else if width = Width.unsignedMachine then Width.unsignedMachine
  else Width.machine

/-- The integer of a type that a floating-point number is cut to, by way of a word. A number that
    the word cannot hold becomes the one whose only set bit is the word's highest. -/
def cut (width : Width) (x : Binary64) : Int :=
  let word := cutWidth width
  let outside : Int := pow2 (word.bits - 1)
  match Value.integerPart x with
  | .ok n => if word.holds n || Width.machine.holds n && word.bits = 64 then width.wrap n
    else width.wrap outside
  | .error _ => width.wrap outside

/-- The integer of a type that another scalar is cast to. Only a text is read, and must fit. -/
def castInteger (width : Width) : Value → Except Failure Int
  | .real x => .ok (cut width x)
  | .text s => do fitted width (← Value.integerOfText s (quotedScalar s))
  | v => do return width.wrap (← v.toInteger)

/-! ## Floating-point numbers -/

/-- The number of so many bits that is nearest to one of 64. The last bit of a number of 16 bits
    counts `2 ^ 1050` least units at least, that of a number of 32 bits `2 ^ 925`. -/
def rounded (bits : Nat) (x : Binary64) : Binary64 :=
  if bits = 16 then x.narrow 11 1050 1090
  else if bits = 32 then x.narrow 24 925 1202
  else x

/-- The floating-point number that a text is read as; one that is none is told of between its
    quotes. -/
def realOfText (s quotedText : String) : Except Failure Binary64 :=
  (numberOf? s).elim (.error (.notNumber quotedText)) .ok

/-- The floating-point number that is made of a plain value; of nothing, `nan` is made. -/
def realOf (v : Value) : Except Failure Binary64 :=
  match v, v.operand? with
  | .text s, _ => realOfText s (quoted s)
  | .none, _ => .ok .nan
  | _, some operand => operand.toReal
  | _, none => .error (.neverNumber v.kind.name)

/-- The floating-point number that another scalar is cast to. -/
def castReal : Value → Except Failure Binary64
  | .text s => realOfText s (quotedScalar s)
  | v => realOf v

end ScalarType

end HillClimb
