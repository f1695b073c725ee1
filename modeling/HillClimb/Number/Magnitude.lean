set_option autoImplicit false

/-! # Positions on the number line

Integers of any size and binary floating-point numbers share one number line. Every finite one of
them is a whole number of *least units*, a least unit being `2 ^ -1074`, so comparing two of them
is comparing two integers and nothing is ever rounded. The line has two ends, and one element that
lies nowhere on it. -/

namespace HillClimb

/-- The power of two. -/
def pow2 (n : Nat) : Nat := Nat.pow 2 n

/-- The power of ten. -/
def pow10 (n : Nat) : Nat := Nat.pow 10 n

theorem pow2_pos (n : Nat) : 0 < pow2 n := Nat.two_pow_pos n

/-- A position on the number line, or `nan`, which has none. -/
inductive Magnitude where
  | nan
  | low
  | finite (units : Int)
  | high
  deriving DecidableEq, Repr, Inhabited

namespace Magnitude

/-- The number of least units in one. -/
def unitsPerOne : Nat := pow2 1074

/-- The position of an integer. -/
def ofInt (n : Int) : Magnitude := .finite (n * unitsPerOne)

/-- How two positions lie to one another; `none` if one of them has no position. -/
def order? : Magnitude → Magnitude → Option Ordering
  | .nan, _ => none
  | _, .nan => none
  | .low, .low => some .eq
  | .low, _ => some .lt
  | .high, .high => some .eq
  | .high, _ => some .gt
  | .finite _, .low => some .gt
  | .finite _, .high => some .lt
  | .finite a, .finite b => some (compare a b)

/-- Whether two numbers are equal; a number without a position equals none. -/
def same (a b : Magnitude) : Bool := order? a b == some .eq

theorem unitsPerOne_pos : 0 < unitsPerOne := pow2_pos 1074

end Magnitude

end HillClimb
