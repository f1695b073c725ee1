import HillClimb.Number.Shortest
import HillClimb.Value.Operations

set_option autoImplicit false

/-! # Conversions of values

Values are turned into integers and into texts.

* `Value.integer?` and `Value.toIndex` give the integer that a value is as it stands.
  `Value.toInteger` also makes one of a floating-point number, by cutting its fraction off, and of a
  text, by reading it as a numeral.
* `Value.toText?` gives the text of a value. A text stands for itself, but inside a tuple it is
  quoted (`Value.itemText?`). A value that holds an integer without a text has none either. -/

namespace HillClimb

namespace Value

/-! ## Integers -/

/-- The integer that a value is as it stands, truth values counting as zero and one. -/
def integer? : Value → Option Int
  | .int n => some n
  | .bool b => some b.toInt
  | _ => Option.none

/-- The integer that a value equals, as a whole floating-point number does too. -/
def equalInteger? : Value → Option Int
  | .real x =>
    match integerPart x with
    | .ok n => if (Value.int n).equal (.real x) then some n else Option.none
    | .error _ => Option.none
  | v => v.integer?

/-- The integer that a value is, where nothing is turned into one. -/
def toIndex (v : Value) : Except Failure Int :=
  v.integer?.elim (.error (.notIndex v.kind.name)) .ok

/-- The integer that a text is read as; one that is none is told of between its quotes. -/
def integerOfText (s quotedText : String) : Except Failure Int :=
  if Numeral.mostDigits < Numeral.leadingDigits s then
    .error (.tooManyDigits Numeral.mostDigits (Numeral.leadingDigits s))
  else
    match integerOf? s with
    | some n => .ok n
    | Option.none => .error (.notInteger quotedText)

/-- The integer that a value is turned into. -/
def toInteger : Value → Except Failure Int
  | .int n => .ok n
  | .bool b => .ok b.toInt
  | .real x => integerPart x
  | .text s => integerOfText s (quoted s)
  | v => .error (.neverInteger v.kind.name)

/-! ## Texts -/

/-- The items of a tuple between brackets; a single one has a comma behind it. -/
def bracketed : List String → String
  | [item] => "(" ++ item ++ ",)"
  | items => "(" ++ String.intercalate ", " items ++ ")"

mutual

/-- The text of a value as an item of a tuple. -/
def itemText? : Value → Option String
  | .int n => Numeral.text? n
  | .real x => some (NumberLayout.plain.text x)
  | .bool b => some (if b then "True" else "False")
  | .text s => some (quoted s)
  | .none => some "None"
  | .tuple items => (itemTexts? items).map bracketed

/-- The texts of the items of a tuple, if all of them have one. -/
def itemTexts? : List Value → Option (List String)
  | [] => some []
  | x :: xs => do return (← itemText? x) :: (← itemTexts? xs)

end

/-- The text of a value. -/
def toText? : Value → Option String
  | .text s => some s
  | x => itemText? x

end Value

end HillClimb
