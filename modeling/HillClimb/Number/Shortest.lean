import HillClimb.Number.Binary64

set_option autoImplicit false

/-! # The shortest decimal that reads back

The reals that round to a given binary number form an interval. `Decimal.shortest` looks for a
point of it on ever finer decimal grids, one more significant digit at a time, and tests on each
grid the two points next to the number itself: if any point of a grid lies in the interval, one of
these two does. Seventeen digits always suffice. -/

namespace HillClimb

/-- The decimal `digits · 10 ^ exponent`. -/
structure Decimal where
  digits : Nat
  exponent : Int
  deriving DecidableEq, Repr, Inhabited

namespace Decimal

/-- An interval around `middle / den`, all three points in the same fraction; the ends belong to
    it if `closed`. -/
structure Interval where
  low : Nat
  middle : Nat
  high : Nat
  den : Nat
  closed : Bool

/-- The reals that round to `mantissa · 2 ^ scale` least units. Below a power of two the numbers
    lie twice as close. -/
def Interval.ofBinary (mantissa scale : Nat) : Interval :=
  let step := pow2 scale
  let below := if mantissa = pow2 52 ∧ 0 < scale then step else 2 * step
  { low := 4 * mantissa * step - below
    middle := 4 * mantissa * step
    high := 4 * mantissa * step + 2 * step
    den := 4 * Magnitude.unitsPerOne
    closed := mantissa % 2 == 0 }

/-- Whether `digits · 10 ^ exponent` lies in the interval. -/
def Interval.contains (i : Interval) (digits : Nat) (exponent : Int) : Bool :=
  let point := digits * pow10 exponent.toNat * i.den
  let shrink := pow10 (-exponent).toNat
  if i.closed then i.low * shrink ≤ point && point ≤ i.high * shrink
  else i.low * shrink < point && point < i.high * shrink

/-- The number of decimal digits of a natural number. -/
def width (n : Nat) : Nat := (Nat.toDigits 10 n).length

/-- The place of the first significant digit of `num / den`: the `k` for which the value lies
    between `10 ^ (k - 1)`, included, and `10 ^ k`. -/
def place (num den : Nat) : Int := (width (num * pow10 400 / den) : Int) - 400

/-- The point of the grid of multiples of `10 ^ exponent` that is next to the middle and lies in
    the interval; of two the nearer, of two equally near ones the even one. -/
def onGrid (i : Interval) (exponent : Int) : Option Decimal :=
  let grow := pow10 exponent.toNat * i.den
  let value := i.middle * pow10 (-exponent).toNat
  let lower := value / grow
  let upper := lower + 1
  let toLower := value - lower * grow
  let toUpper := upper * grow - value
  match i.contains lower exponent, i.contains upper exponent with
  | true, true =>
    if toLower < toUpper ∨ (toLower = toUpper ∧ lower % 2 = 0) then some ⟨lower, exponent⟩
    else some ⟨upper, exponent⟩
  | true, false => some ⟨lower, exponent⟩
  | false, true => some ⟨upper, exponent⟩
  | false, false => none

/-- The first grid with a point in the interval, from the one with `count` significant digits
    on. -/
def search (i : Interval) (place : Int) : Nat → Nat → Decimal
  | _, 0 => ⟨0, 0⟩
  | count, rounds + 1 =>
    match onGrid i (place - count) with
    | some d => d
    | none => search i place (count + 1) rounds

/-- The decimal with the fewest digits that rounds to `mantissa · 2 ^ scale` least units, and of
    those the nearest one. A carry into a new place can only happen on the grid of one digit. -/
def shortest (mantissa scale : Nat) : Decimal :=
  if mantissa = 0 then ⟨0, 0⟩
  else
    let i := Interval.ofBinary mantissa scale
    let d := search i (place i.middle i.den) 1 17
    if d.digits = 10 then ⟨1, d.exponent + 1⟩ else d

end Decimal

/-! ## Writing it -/

/-- How decimals are written: positionally as long as the place of the first digit, counted from
    the point, is in a range, and with an exponent otherwise. -/
structure NumberLayout where
  /-- The least decimal exponent that is written positionally. -/
  positionalFrom : Int
  /-- The least decimal exponent beyond those. -/
  positionalBelow : Int
  /-- The least number of digits of a written exponent. -/
  exponentWidth : Nat
  nan : String
  infinity : String

/-- Numbers are written positionally from `0.0001` up to below `10 ^ 16`, always with a digit
    behind the point, and otherwise with a signed exponent of at least two digits. -/
def NumberLayout.plain : NumberLayout := ⟨-4, 16, 2, "nan", "inf"⟩

namespace NumberLayout

/-- A digit string with its point after the first `point` digits. -/
def positional (digits : String) (point : Int) : String :=
  let count : Int := digits.length
  if point ≤ 0 then "0." ++ "".pushn '0' (-point).toNat ++ digits
  else if count ≤ point then digits ++ "".pushn '0' (point - count).toNat ++ ".0"
  else String.ofList (digits.toList.take point.toNat) ++ "." ++
    String.ofList (digits.toList.drop point.toNat)

/-- A digit string with its point after the first digit and an exponent. -/
def scientific (layout : NumberLayout) (digits : String) (exponent : Int) : String :=
  let power := toString exponent.natAbs
  let padding := "".pushn '0' (layout.exponentWidth - power.length)
  let sign := if exponent < 0 then "-" else "+"
  let rest := String.ofList (digits.toList.drop 1)
  String.ofList (digits.toList.take 1) ++ (if rest.isEmpty then "" else "." ++ rest) ++
    "e" ++ sign ++ padding ++ power

/-- The text of a decimal that is not negative. -/
def decimal (layout : NumberLayout) (d : Decimal) : String :=
  let digits := toString d.digits
  let point : Int := digits.length + d.exponent
  if layout.positionalFrom ≤ point - 1 ∧ point - 1 < layout.positionalBelow then
    positional digits point
  else layout.scientific digits (point - 1)

/-- The text of a floating-point number. -/
def text (layout : NumberLayout) : Binary64 → String
  | .nan => layout.nan
  | .infinite negative => (if negative then "-" else "") ++ layout.infinity
  | .finite negative mantissa scale =>
    (if negative then "-" else "") ++ layout.decimal (Decimal.shortest mantissa scale)

end NumberLayout

end HillClimb
