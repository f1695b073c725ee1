import HillClimb.Failure

set_option autoImplicit false

/-! # Order and arithmetic of values

`Value.relate` orders two values: numbers by their exact position, texts by their characters, tuples
by their first unequal elements and otherwise by their lengths. Nothing else has an order, and
asking for one fails with `Failure.unordered`.

`Value.calculate` adds, subtracts and multiplies. Integers and truth values are computed with
exactly. If a floating-point number takes part, the other number is rounded to one first. Sums also
join two texts or two tuples, and the product of one of these and an integer repeats it. -/

namespace HillClimb

namespace Value

/-! ## Order -/

/-- How two texts lie to one another: the first characters that differ decide. -/
def textOrder (s t : String) : Ordering :=
  if s < t then .lt else if s = t then .eq else .gt

/-- The order of two values neither of which is taken apart. -/
def relateAtoms (r : Relation) (x y : Value) : Except Failure Bool :=
  match x.magnitude?, y.magnitude? with
  | some a, some b =>
    match a.order? b with
    | some o => .ok (r.holds o)
    | Option.none => .ok false
  | _, _ => .error (.unordered r x.kind y.kind)

mutual

/-- Whether the relation holds between two values; a failure if they have no order. -/
def relate (r : Relation) : Value → Value → Except Failure Bool
  | .tuple xs, .tuple ys => relateAll r xs ys
  | .text s, .text t => .ok (r.holds (textOrder s t))
  | x, y => relateAtoms r x y

/-- The order of two tuples: their first elements that are not `equal` decide, or else which one
    ends first. -/
def relateAll (r : Relation) : List Value → List Value → Except Failure Bool
  | x :: xs, y :: ys => if equal x y then relateAll r xs ys else relate r x y
  | [], [] => .ok (r.holds .eq)
  | [], _ :: _ => .ok (r.holds .lt)
  | _ :: _, [] => .ok (r.holds .gt)

end

/-! ## Arithmetic -/

/-- A number that takes part in a computation of `calculate`. -/
inductive Operand where
  | exact (n : Int)
  | rounded (x : Binary64)

/-- The number that a value is, if it is one. -/
def operand? : Value → Option Operand
  | .int n => some (.exact n)
  | .bool b => some (.exact b.toInt)
  | .real x => some (.rounded x)
  | _ => Option.none

/-- The floating-point number nearest to a number, which is `Failure.beyondReal` beyond all of
    them. -/
def Operand.toReal : Operand → Except Failure Binary64
  | .rounded x => .ok x
  | .exact n =>
    let x := Binary64.ofInt n
    if x.isFinite then .ok x else .error .beyondReal

/-- The integer part of a floating-point number, cut toward zero. -/
def integerPart : Binary64 → Except Failure Int
  | .finite negative mantissa scale => .ok (Binary64.truncate negative mantissa scale)
  | .infinite _ => .error .infiniteToInt
  | .nan => .error .nanToInt

/-- The operation on integers. -/
def exactly : Arithmetic → Int → Int → Int
  | .sum, m, n => m + n
  | .difference, m, n => m - n
  | .product, m, n => m * n

/-- The operation on floating-point numbers. -/
def rounded : Arithmetic → Binary64 → Binary64 → Binary64
  | .sum, x, y => x.add y
  | .difference, x, y => x.sub y
  | .product, x, y => x.mul y

/-- The operation on two numbers. -/
def compute (op : Arithmetic) : Operand → Operand → Except Failure Value
  | .exact m, .exact n => .ok (.int (exactly op m n))
  | a, b => do
    let x ← a.toReal
    let y ← b.toReal
    return .real (rounded op x y)

/-- Things so many times over. -/
def repeated {α : Type} (items : List α) (count : Int) : List α :=
  (List.replicate count.toNat items).flatten

/-- Why an operation does not exist on two values, as `Failure.unsupported` or
    `Failure.unjoinable`. -/
def refusal (op : Arithmetic) (x y : Value) : Failure :=
  match op, x.kind with
  | .sum, .text => .unjoinable .text y.kind
  | .sum, .tuple => .unjoinable .tuple y.kind
  | _, _ => .unsupported op x.kind y.kind

/-- The result of an operation on two values, if there is one; else the `refusal`. -/
def calculate (op : Arithmetic) (x y : Value) : Except Failure Value :=
  match op, x, y with
  | .sum, .text s, .text t => .ok (.text (s ++ t))
  | .sum, .tuple xs, .tuple ys => .ok (.tuple (xs ++ ys))
  | .product, .text s, .int n => .ok (.text (String.ofList (repeated s.toList n)))
  | .product, .tuple xs, .int n => .ok (.tuple (repeated xs n))
  | _, _, _ =>
    match x.operand?, y.operand? with
    | some a, some b => compute op a b
    | _, _ => .error (refusal op x y)

/-- The sum of two values. -/
def plus (x y : Value) : Except Failure Value := calculate .sum x y

/-- The difference of two values. -/
def minus (x y : Value) : Except Failure Value := calculate .difference x y

/-- The product of two values. -/
def times (x y : Value) : Except Failure Value := calculate .product x y

end Value

end HillClimb
