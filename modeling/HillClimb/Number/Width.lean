import HillClimb.Number.Magnitude

set_option autoImplicit false

/-! # Integers of fixed width

A word of some bits holds the integers of a range, with or without negative ones. Main definitions:
`Width.holds`, whether an integer lies in the range, and `Width.wrap`, which brings any integer into
it by keeping its last bits only. -/

namespace HillClimb

/-- A number of bits, and whether one of them is a sign. -/
structure Width where
  signed : Bool
  bits : Nat
  deriving DecidableEq, Repr

namespace Width

/-- The width of the words that machines count with. -/
def machine : Width := ⟨true, 64⟩

/-- The width of the words that machines count with upwards only. -/
def unsignedMachine : Width := ⟨false, 64⟩

/-- The least integer of a width. -/
def least (w : Width) : Int := if w.signed then -(pow2 (w.bits - 1) : Int) else 0

/-- The least integer beyond a width. -/
def bound (w : Width) : Int := if w.signed then pow2 (w.bits - 1) else pow2 w.bits

/-- Whether an integer lies in the range of a width. -/
def holds (w : Width) (n : Int) : Bool := w.least ≤ n && n < w.bound

/-- The integer of a width that has the same last bits. -/
def wrap (w : Width) (n : Int) : Int := (n - w.least) % (pow2 w.bits : Int) + w.least

/-- A width with a bit at least has as many integers as there are settings of its bits. -/
theorem bound_eq (w : Width) (hpos : 0 < w.bits) : w.bound = w.least + pow2 w.bits := by
  obtain ⟨signed, bits⟩ := w
  cases bits with
  | zero => exact absurd hpos (by simp)
  | succ bits =>
    have hdouble : pow2 (bits + 1) = 2 * pow2 bits := by
      show Nat.pow 2 bits * 2 = 2 * pow2 bits
      exact Nat.mul_comm ..
    cases signed
    · simp [bound, least]
    · simp only [bound, least, Nat.add_sub_cancel, if_true, hdouble]
      omega

/-- What lies in the range is wrapped to itself. -/
theorem wrap_of_holds (w : Width) (hpos : 0 < w.bits) {n : Int} (h : w.holds n = true) :
    w.wrap n = n := by
  simp only [holds, bound_eq w hpos, Bool.and_eq_true, decide_eq_true_eq] at h
  have hrest : (n - w.least) % (pow2 w.bits : Int) = n - w.least :=
    Int.emod_eq_of_lt (by omega) (by omega)
  rw [wrap, hrest]
  omega

end Width

end HillClimb
