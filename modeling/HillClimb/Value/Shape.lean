import HillClimb.Failure

set_option autoImplicit false

/-! # The shape of nested tuples

Values are laid out in an array if tuples are nested in them evenly: tuples at one depth have one
length, and none of them stands beside a value that is no tuple. A `Survey` goes over the values in
order, depth first (`Survey.all`). Main definition: `shapeOf`, the lengths of all dimensions. -/

namespace HillClimb

/-- The most dimensions that an array may have. -/
def mostDimensions : Nat := 64

/-- What is known of a shape in the middle of `Survey.all`. -/
structure Survey where
  /-- The length of each dimension, as far as they were seen. -/
  lengths : Array Nat := #[]
  /-- How many dimensions there are at most. -/
  limit : Nat := mostDimensions
  /-- Whether the `lengths` hold for the rest, since something was seen that has no items. -/
  settled : Bool := false
  uneven : Bool := false
  deriving Repr, DecidableEq

namespace Survey

/-- The `Survey` with the length of a dimension, behind which nothing is known yet. -/
def note (s : Survey) (depth length : Nat) : Survey :=
  { s with lengths := (s.lengths.take depth).push length }

/-- The `Survey` after something that has no items; there are no dimensions beyond it. -/
def settle (s : Survey) (dimensions : Nat) : Survey :=
  { s with limit := dimensions, settled := true }

/-- The `Survey` after a value that is no tuple. -/
def leaf (s : Survey) (depth : Nat) : Survey :=
  if s.limit = depth then { s with settled := true }
  else { s.settle depth with uneven := s.uneven || s.settled }

/-- Whether a tuple of a length fits the `lengths` that are known. -/
def admits (s : Survey) (depth length : Nat) : Bool :=
  !s.settled || s.lengths[depth]? == some length

/-- The `Survey` after a tuple beyond its `limit`. It counts as a value that is none, but out of
    place. -/
def exceed (s : Survey) : Survey := { s with settled := true, uneven := true }

/-- The `Survey` after a tuple of another length than those before it: its dimension is none. -/
def refuse (s : Survey) (depth : Nat) : Survey := { s with limit := depth, uneven := true }

mutual

/-- Surveys a value at a depth. -/
def value (depth : Nat) : Value → Survey → Survey
  | .tuple items, s =>
    if s.limit ≤ depth then s.exceed
    else if !s.admits depth items.length then s.refuse depth
    else
      let s := if s.settled then s else s.note depth items.length
      if items.isEmpty then s.settle (depth + 1) else all (depth + 1) items s
  | _, s => s.leaf depth

/-- Surveys values at a depth, in order. -/
def all (depth : Nat) : List Value → Survey → Survey
  | [], s => s
  | v :: vs, s => all depth vs (value depth v s)

end

end Survey

/-- The lengths of the dimensions of an array of some values, the first one being their number. -/
def shapeOf (values : List Value) : Except Failure (List Nat) :=
  let s := Survey.value 0 (.tuple values) {}
  if !s.uneven then .ok (s.lengths.toList.take s.limit)
  else if s.limit = mostDimensions then .error (.tooDeep mostDimensions)
  else .error (.ragged (s.lengths.toList.take s.limit))

mutual

/-- The values in a value that are no tuples, in order. A value that is none itself is its only
    leaf. -/
def Value.leaves : Value → List Value
  | .tuple items => leavesOfAll items
  | v => [v]

/-- The values in some values that are no tuples, in order. -/
def leavesOfAll : List Value → List Value
  | [] => []
  | v :: vs => v.leaves ++ leavesOfAll vs

end

end HillClimb
