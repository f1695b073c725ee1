import HillClimb.Number.Binary64

set_option autoImplicit false

/-! # Values

A cost, a seed or an argument is a `Value`: a number, a truth value, a text, nothing, or a tuple of
values. Truth values count as the numbers zero and one. Main definitions: `Value`, its `Kind`, the
relations that values may be in (`Relation`), and `Value.equal`. -/

namespace HillClimb

/-- A cost, a seed, or an argument. -/
inductive Value where
  | int (n : Int)
  | real (x : Binary64)
  | bool (b : Bool)
  | text (s : String)
  | none
  | tuple (items : List Value)
  deriving Repr, Inhabited

/-- The type of a `Value`, tuples apart from what is in them. -/
inductive Kind where
  | int | real | bool | text | none | tuple
  deriving DecidableEq, Repr

/-- The name of a `Kind` in messages. -/
def Kind.name : Kind → String
  | .int => "int"
  | .real => "float"
  | .bool => "bool"
  | .text => "str"
  | .none => "NoneType"
  | .tuple => "tuple"

/-- The four ways to ask for an order. -/
inductive Relation where
  | less | greater | atMost | atLeast
  deriving DecidableEq, Repr

namespace Relation

/-- The sign of a `Relation` in messages. -/
def symbol : Relation → String
  | .less => "<"
  | .greater => ">"
  | .atMost => "<="
  | .atLeast => ">="

/-- Whether the `Relation` holds between things that an `Ordering` tells of. -/
def holds : Relation → Ordering → Bool
  | .less, o => o == .lt
  | .greater, o => o == .gt
  | .atMost, o => o != .gt
  | .atLeast, o => o != .lt

end Relation

/-- The three operations on numbers. -/
inductive Arithmetic where
  | sum | difference | product
  deriving DecidableEq, Repr

/-- The sign of an `Arithmetic` operation in messages. -/
def Arithmetic.symbol : Arithmetic → String
  | .sum => "+"
  | .difference => "-"
  | .product => "*"

namespace Value

def kind : Value → Kind
  | .int _ => .int
  | .real _ => .real
  | .bool _ => .bool
  | .text _ => .text
  | .none => .none
  | .tuple _ => .tuple

/-- Whether a `Value` counts as true: it is neither `none`, nor zero, nor empty. -/
def isTrue : Value → Bool
  | .int n => n != 0
  | .real x => x.magnitude != .finite 0
  | .bool b => b
  | .text s => !s.isEmpty
  | .none => false
  | .tuple items => !items.isEmpty

/-- The position of a number or truth value on the number line, a `Magnitude`. -/
def magnitude? : Value → Option Magnitude
  | .int n => some (.ofInt n)
  | .real x => some x.magnitude
  | .bool b => some (.ofInt b.toInt)
  | _ => Option.none

/-! ## Equality

Values of different kinds are unequal, numbers and truth values apart, which are equal if
`Magnitude.same` says so. -/

mutual

/-- Whether two values are equal, as `==` asks. -/
def equal : Value → Value → Bool
  | .tuple xs, .tuple ys => equalAll xs ys
  | .text s, .text t => s == t
  | .none, .none => true
  | x, y =>
    match x.magnitude?, y.magnitude? with
    | some a, some b => a.same b
    | _, _ => false

/-- Whether two lists of values are `equal`, element by element. -/
def equalAll : List Value → List Value → Bool
  | [], [] => true
  | x :: xs, y :: ys => equal x y && equalAll xs ys
  | _, _ => false

end

end Value

end HillClimb
