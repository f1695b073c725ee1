import HillClimb.Number.Binary64
import HillClimb.Text.Word

set_option autoImplicit false

/-! # Numerals

Integers and numbers written as texts. Blanks may stand around a numeral, and its digits may be
those of any script, with one underscore between any two of them.

* `integerOf?` reads an integer, and `numberOf?` reads a floating-point number.
* `Numeral.text?` writes an integer. It does not go beyond `Numeral.mostDigits` decimal digits, and
  whoever reads an integer holds `Numeral.leadingDigits` against the same limit. -/

namespace HillClimb

namespace Numeral

/-! ## Characters -/

/-- The blanks beyond the first 128 characters. -/
def wideBlanks : List Nat :=
  [0x85, 0xa0, 0x1680, 0x2000, 0x2001, 0x2002, 0x2003, 0x2004, 0x2005, 0x2006, 0x2007, 0x2008,
    0x2009, 0x200a, 0x2028, 0x2029, 0x202f, 0x205f, 0x3000]

/-- Whether a character is one of the six blanks among the first 128 characters. -/
def isPlainBlank (c : Char) : Bool := c == ' ' || (0x09 ≤ c.toNat && c.toNat ≤ 0x0d)

/-- The decimal value of a digit of any script. -/
def digitValue? (c : Char) : Option Nat :=
  (Word.digits.find? fun range => range.1 ≤ c.toNat && c.toNat ≤ range.2).map fun range =>
    (c.toNat - range.1) % 10

/-- A blank or digit in its plain form. -/
def plainChar (c : Char) : Char :=
  if c.toNat < 128 then c
  else if wideBlanks.contains c.toNat then ' '
  else
    match digitValue? c with
    | some value => Char.ofNat ('0'.toNat + value)
    | none => c

/-- A text in plain characters, without the blanks around it. -/
def plainForm (s : String) : List Char :=
  let cs := (s.toList.map plainChar).dropWhile isPlainBlank
  (cs.reverse.dropWhile isPlainBlank).reverse

/-! ## Underscores -/

/-- The text without its underscores, each of which must stand between two digits. The first
    argument tells whether the character before was a digit. -/
def joinDigits? : Bool → List Char → Option (List Char)
  | _, [] => some []
  | true, '_' :: c :: cs => if c.isDigit then (joinDigits? true cs).map (c :: ·) else none
  | _, c :: cs => if c = '_' then none else (joinDigits? c.isDigit cs).map (c :: ·)

/-! ## Parts -/

/-- The rest behind a sign, and whether the sign was a minus. -/
def afterSign : List Char → Bool × List Char
  | '-' :: cs => (true, cs)
  | '+' :: cs => (false, cs)
  | cs => (false, cs)

/-- Whether there are digits and nothing else. -/
def isDigits (cs : List Char) : Bool := !cs.isEmpty && cs.all Char.isDigit

/-- The number that digits stand for. -/
def digitsValue (cs : List Char) : Nat :=
  cs.foldl (fun n c => 10 * n + (c.toNat - '0'.toNat)) 0

/-- The digits behind a point, if there is one, and the rest behind them. -/
def afterPoint : List Char → List Char × List Char
  | '.' :: cs => (cs.takeWhile Char.isDigit, cs.dropWhile Char.isDigit)
  | cs => ([], cs)

/-- The exponent that ends a number. Nothing stands for zero. -/
def exponent? : List Char → Option Int
  | [] => some 0
  | c :: cs =>
    let (negative, digits) := afterSign cs
    if (c == 'e' || c == 'E') && isDigits digits then
      some (Binary64.signed negative (digitsValue digits))
    else none

/-- More places than there are between the point and any digit that counts. -/
def farPlace : Int := 400

/-- The number nearest to digits times a power of ten. Far from the point, on either side, it is
    infinite or zero whatever the digits are. -/
def scaled (digits : List Char) (exponent : Int) : Binary64 :=
  let digits := digits.dropWhile (· == '0')
  if digits.isEmpty ∨ digits.length + exponent < -farPlace then .finite false 0 0
  else if farPlace < digits.length + exponent then .infinite false
  else
    Binary64.ofRatio (digitsValue digits * pow10 exponent.toNat) (pow10 (-exponent).toNat)

/-- The number that digits stand for, with a point among them at most and an exponent behind them
    at most. -/
def decimal? (cs : List Char) : Option Binary64 :=
  let whole := cs.takeWhile Char.isDigit
  let (fraction, rest) := afterPoint (cs.dropWhile Char.isDigit)
  if whole.isEmpty && fraction.isEmpty then none
  else (exponent? rest).map fun n => scaled (whole ++ fraction) (n - fraction.length)

/-- The number that a word stands for, in letters of either case. -/
def word? (cs : List Char) : Option Binary64 :=
  let word := String.ofList (cs.map Char.toLower)
  if word = "nan" then some .nan
  else if word = "inf" ∨ word = "infinity" then some (.infinite false)
  else none

/-- How many digits a text begins with, blanks, a sign and underscores apart. They are counted
    before the text is read by `integerOf?`. -/
def leadingDigits (s : String) : Nat :=
  let digits := (afterSign (plainForm s)).2.takeWhile fun c => c.isDigit || c == '_'
  ((joinDigits? false digits).map List.length).getD 0

/-- The most decimal digits that an integer is read from, and the most that it is written in. -/
def mostDigits : Nat := 4300

/-- The decimal text of an integer. An integer of more than `mostDigits` digits has none. -/
def text? (n : Int) : Option String :=
  if n.natAbs < pow10 mostDigits then some (toString n) else none

end Numeral

/-- The integer that a text is, if it is one. -/
def integerOf? (s : String) : Option Int := do
  let (negative, digits) := Numeral.afterSign (← Numeral.joinDigits? false (Numeral.plainForm s))
  if Numeral.isDigits digits then
    return Binary64.signed negative (Numeral.digitsValue digits)
  else none

/-- The floating-point number that a text is, if it is one. -/
def numberOf? (s : String) : Option Binary64 := do
  let (negative, cs) := Numeral.afterSign (← Numeral.joinDigits? false (Numeral.plainForm s))
  let x ← (Numeral.decimal? cs).or (Numeral.word? cs)
  return if negative then x.neg else x

end HillClimb
