import HillClimb.Number.Magnitude

set_option autoImplicit false

/-! # Binary floating point with 53 significant bits

A finite number is `± mantissa · 2 ^ scale` least units. The normal form has a mantissa below
`2 ^ 53`, and a scale of zero unless the mantissa has all its 53 bits; `ofBits` and `round` give
that form. All arithmetic is exact arithmetic on integers followed by one rounding. -/

namespace HillClimb

/-- A floating-point number of the binary interchange format of 64 bits. -/
inductive Binary64 where
  | nan
  | infinite (negative : Bool)
  | finite (negative : Bool) (mantissa scale : Nat)
  deriving DecidableEq, Repr, Inhabited

namespace Binary64

/-! ## Position -/

/-- An absolute value with a sign put to it. -/
def signed (negative : Bool) (n : Nat) : Int := if negative then -(n : Int) else n

/-- The position on the number line. -/
def magnitude : Binary64 → Magnitude
  | .nan => .nan
  | .infinite negative => if negative then .low else .high
  | .finite negative mantissa scale => .finite (signed negative (mantissa * pow2 scale))

/-! ## Rounding -/

/-- The integer nearest to `num / den`; a half goes to the even neighbour. -/
def nearestEven (num den : Nat) : Nat :=
  let quotient := num / den
  let excess := 2 * (num % den)
  if den < excess ∨ (excess = den ∧ quotient % 2 = 1) then quotient + 1 else quotient

/-- The nearest integer is at most half a unit away, in units of `2 * den`. -/
theorem nearestEven_bounds (num den : Nat) (hpos : 0 < den) :
    2 * (den * nearestEven num den) ≤ 2 * num + den ∧
      2 * num ≤ 2 * (den * nearestEven num den) + den := by
  have hsplit := Nat.div_add_mod num den
  have hrest := Nat.mod_lt num hpos
  unfold nearestEven
  dsimp only
  split
  · rw [Nat.mul_add, Nat.mul_one]
    omega
  · omega

/-- The largest scale of a finite number. -/
def maxScale : Nat := 2045

/-- The number nearest to `num / den` least units, ties to the even mantissa; what rounds beyond
    the largest finite number becomes infinite. -/
def round (negative : Bool) (num den : Nat) : Binary64 :=
  let scale := Nat.log2 (num / den) - 52
  let mantissa := nearestEven num (den * pow2 scale)
  let carried := if mantissa = pow2 53 then (pow2 52, scale + 1) else (mantissa, scale)
  if maxScale < carried.2 then .infinite negative else .finite negative carried.1 carried.2

/-- The number nearest to a whole number of least units. -/
def ofUnits (units : Int) : Binary64 := round (decide (units < 0)) units.natAbs 1

/-- The number nearest to an integer. -/
def ofInt (n : Int) : Binary64 := ofUnits (n * Magnitude.unitsPerOne)

/-- The number nearest to `num / den`. -/
def ofRatio (num den : Nat) : Binary64 := round false (num * Magnitude.unitsPerOne) den

/-- The number nearest to another among those that have so many significant bits, the last of them
    not below the bit of the given place, and that lie below another place; all places are counted
    from the least unit on. -/
def narrow (precision lowest beyond : Nat) : Binary64 → Binary64
  | .finite negative mantissa scale =>
    let units := mantissa * pow2 scale
    let last := pow2 (max lowest (Nat.log2 units + 1 - precision))
    let units := nearestEven units last * last
    if pow2 beyond ≤ units then .infinite negative else round negative units 1
  | x => x

/-- Whether the number is a finite one. -/
def isFinite : Binary64 → Bool
  | .finite .. => true
  | _ => false

/-! ## Arithmetic -/

/-- The number of the other sign. -/
def neg : Binary64 → Binary64
  | .nan => .nan
  | .infinite negative => .infinite (!negative)
  | .finite negative mantissa scale => .finite (!negative) mantissa scale

/-- The rounded sum. A sum of zero is negative only if both summands are. -/
def add : Binary64 → Binary64 → Binary64
  | .nan, _ => .nan
  | _, .nan => .nan
  | .infinite a, .infinite b => if a = b then .infinite a else .nan
  | .infinite a, _ => .infinite a
  | _, .infinite b => .infinite b
  | .finite a m s, .finite b n t =>
    let total := signed a (m * pow2 s) + signed b (n * pow2 t)
    if total = 0 then .finite (a && b) 0 0 else ofUnits total

/-- The rounded difference. -/
def sub (x y : Binary64) : Binary64 := x.add y.neg

/-- The rounded product. -/
def mul : Binary64 → Binary64 → Binary64
  | .nan, _ => .nan
  | _, .nan => .nan
  | .infinite a, .infinite b => .infinite (a ^^ b)
  | .infinite a, .finite b n _ => if n = 0 then .nan else .infinite (a ^^ b)
  | .finite a m _, .infinite b => if m = 0 then .nan else .infinite (a ^^ b)
  | .finite a m s, .finite b n t =>
    round (a ^^ b) (m * pow2 s * (n * pow2 t)) Magnitude.unitsPerOne

/-- The integer part of a finite number, cut toward zero. -/
def truncate (negative : Bool) (mantissa scale : Nat) : Int :=
  signed negative (mantissa * pow2 scale / Magnitude.unitsPerOne)

/-! ## The interchange format -/

/-- Reads the 64 bits: a sign, eleven bits of exponent, 52 bits of fraction. -/
def ofBits (bits : Nat) : Binary64 :=
  let negative := decide (pow2 63 ≤ bits)
  let exponent := bits / pow2 52 % pow2 11
  let fraction := bits % pow2 52
  if exponent = 2047 then
    if fraction = 0 then .infinite negative else .nan
  else if exponent = 0 then .finite negative fraction 0
  else .finite negative (pow2 52 + fraction) (exponent - 1)

/-- Writes the 64 bits of a number in normal form; there is one writing of `nan`. -/
def toBits : Binary64 → Nat
  | .nan => 0x7ff8000000000000
  | .infinite negative => (if negative then pow2 63 else 0) + 2047 * pow2 52
  | .finite negative mantissa scale =>
    (if negative then pow2 63 else 0) + (scale * pow2 52 + mantissa)

end Binary64

end HillClimb
