import HillClimb.Value.Conversion

set_option autoImplicit false

/-! # Fields of log formats

A field shows a value. It may ask for a width, a precision and some flags, and ends in a letter that
says how the value is written (`FieldSpec`): as a text, as an integer in some base, as a
floating-point number or as a character. Not every value can be written in every way, and `write?`
is the way there is. -/

namespace HillClimb

namespace LogFormat

/-! ## What a field asks for -/

/-- How a field is written: its flags, width and precision, and the letter that it ends in. -/
structure FieldSpec where
  flags : List Char
  width : Nat
  precision : Option Nat
  ending : Char

/-- The greatest length of a field. None that asks for more is written (`write?`). -/
def longest : Nat := pow2 24

def FieldSpec.has (spec : FieldSpec) (flag : Char) : Bool := spec.flags.contains flag

/-! ## Texts -/

/-- A text filled up with blanks to the width of its field. -/
def padText (spec : FieldSpec) (cs : List Char) : List Char :=
  let blanks := List.replicate (spec.width - cs.length) ' '
  if spec.has '-' then cs ++ blanks else blanks ++ cs

/-- A text cut to the precision and filled up to the width by `padText`. -/
def writeText (spec : FieldSpec) (text : String) : List Char :=
  padText spec (text.toList.take (spec.precision.getD text.length))

/-! ## Numbers -/

/-- A number in front of which, or between whose sign and digits, the field is filled up. -/
def writeSigned (spec : FieldSpec) (negative : Bool) (base digits : List Char) : List Char :=
  let sign :=
    if negative then ['-'] else if spec.has '+' then ['+'] else if spec.has ' ' then [' '] else []
  let length := sign.length + base.length + digits.length
  if spec.has '0' && !spec.has '-' then
    sign ++ base ++ List.replicate (spec.width - length) '0' ++ digits
  else padText spec (sign ++ base ++ digits)

/-- An integer in some base, with `mark` in front of it if that is asked for; the precision is the
    least number of digits. -/
def writeInteger (spec : FieldSpec) (base : Nat) (mark : List Char) (n : Int) : List Char :=
  let digits := Nat.toDigits base n.natAbs
  let digits := List.replicate (spec.precision.getD 0 - digits.length) '0' ++ digits
  writeSigned spec (decide (n < 0)) (if spec.has '#' then mark else []) digits

/-- The digits behind the point, with the point; without digits only if the point is asked for. -/
def fractionDigits (spec : FieldSpec) (digits : List Char) : List Char :=
  if digits.isEmpty && !spec.has '#' then [] else '.' :: digits

/-- The digits of a whole number rounded to some significant ones, a half to the even neighbour,
    and its decimal exponent. -/
def significant (count n : Nat) : List Char × Nat :=
  let digits := Nat.toDigits 10 n
  if digits.length ≤ count then
    (digits ++ List.replicate (count - digits.length) '0', digits.length - 1)
  else
    let rounded := Nat.toDigits 10 (Binary64.nearestEven n (pow10 (digits.length - count)))
    (rounded.take count, digits.length - 1 + (rounded.length - count))

/-- A decimal exponent with its sign, in two digits at least. -/
def exponentDigits (exponent : Nat) : List Char :=
  let digits := Nat.toDigits 10 exponent
  'e' :: '+' :: List.replicate (2 - digits.length) '0' ++ digits

/-- A list of digits without the zeros at its end. -/
def withoutZeros (digits : List Char) : List Char :=
  (digits.reverse.dropWhile (· == '0')).reverse

/-- A whole number as a floating-point number, in one of three styles: `f` is positional, `e` has an
    exponent, and `g` is whichever suits its size. The last one shows no more digits than there are,
    unless zeros at the end are asked for. -/
def realDigits (spec : FieldSpec) (style : Char) (n : Nat) : List Char :=
  if style = 'f' then
    Nat.toDigits 10 n ++ fractionDigits spec (List.replicate (spec.precision.getD 6) '0')
  else if style = 'e' then
    let (digits, exponent) := significant (spec.precision.getD 6 + 1) n
    digits.take 1 ++ fractionDigits spec (digits.drop 1) ++ exponentDigits exponent
  else
    let asked := spec.precision.getD 6
    let count := max 1 (if spec.has '#' then asked else min asked (Nat.toDigits 10 n).length)
    let (digits, exponent) := significant count n
    let trim := fun ds => if spec.has '#' then ds else withoutZeros ds
    if exponent < count then
      digits.take (exponent + 1) ++ fractionDigits spec (trim (digits.drop (exponent + 1)))
    else digits.take 1 ++ fractionDigits spec (trim (digits.drop 1)) ++ exponentDigits exponent

/-- An integer as a floating-point number, if it is not beyond all of them. -/
def writeReal? (spec : FieldSpec) (n : Int) : Option (List Char) :=
  match Binary64.ofInt n with
  | .finite negative mantissa scale =>
    let whole := (Binary64.truncate false mantissa scale).natAbs
    let digits := realDigits spec spec.ending.toLower whole
    let digits := if spec.ending.isUpper then digits.map Char.toUpper else digits
    some (writeSigned spec negative [] digits)
  | _ => none

/-! ## All values -/

/-- The character of a number, or of a text that has only one. -/
def writeChar? (spec : FieldSpec) : Value → Option (List Char)
  | .int n =>
    if 0 ≤ n ∧ (Nat.isValidChar n.toNat) then some (padText spec [Char.ofNat n.toNat]) else none
  | .text s => if s.length = 1 then some (padText spec s.toList) else none
  | _ => none

/-- A text in which characters beyond the first 128 are escaped (`quotedAscii`), for a value. -/
def asciiText? : Value → Option String
  | .text s => some (quotedAscii s)
  | v => v.itemText?

/-- A text of which only the beginning is known, if that is all that a field shows of it. -/
def writeBeginning? (spec : FieldSpec) (known : String) : Option (List Char) :=
  match spec.precision with
  | some p => if p ≤ known.length then some (writeText spec known) else none
  | none => none

/-- An integer as a field asks for it. In decimal digits not every integer can be written: see
    `Numeral.text?`. -/
def writeNumber? (spec : FieldSpec) (n : Int) : Option (List Char) :=
  match spec.ending with
  | 'd' | 'i' | 'u' => (Numeral.text? n).map fun _ => writeInteger spec 10 [] n
  | 'o' => some (writeInteger spec 8 ['0', 'o'] n)
  | 'x' => some (writeInteger spec 16 ['0', 'x'] n)
  | 'X' => some ((writeInteger spec 16 ['0', 'x'] n).map Char.toUpper)
  | ending => if ['e', 'f', 'g'].contains ending.toLower then writeReal? spec n else none

/-- Whether as many digits are shown as the precision of a number asks for. -/
def showsAll (spec : FieldSpec) : Bool := spec.ending.toLower != 'g' || spec.has '#'

/-- A value as a field asks for it, or nothing if it cannot be written so. -/
def write? (spec : FieldSpec) (v : Value) : Option (List Char) :=
  match spec.ending, v with
  | 's', v => v.toText?.map (writeText spec)
  | 'r', v => v.itemText?.map (writeText spec)
  | 'a', v => (asciiText? v).map (writeText spec)
  | 'c', v => writeChar? spec v
  | _, .int n =>
    if showsAll spec && longest < spec.precision.getD 0 then none else writeNumber? spec n
  | _, _ => none

end LogFormat

end HillClimb
