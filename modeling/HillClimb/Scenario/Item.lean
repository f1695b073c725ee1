import HillClimb.Hook

set_option autoImplicit false

/-! # Items

A scenario is played with solutions that do what they are told: an `Item` has a label, a cost that
is given or a failure in its place, and a `Judgement`. Each item made is a new one, known by its
number, even if it looks like another. A factory may also give nothing, and nothing is then taken
for a solution like any other, until something is asked of it, its label included. A `Product` is
either, and is the `Candidate` of a scenario. -/

namespace HillClimb.Scenario

/-- How an item judges itself against another: see `Product.preference`. -/
inductive Judgement where
  | lowerCost
  | higherCost
  /-- It is better than the items of these labels. -/
  | beats (labels : List String)
  deriving Repr

/-- What an item is made of, for factories that change it bit by bit or place by place. -/
inductive Content where
  | plain
  | listed (numbers : Array Int)
  deriving Repr

/-- A solution of a scenario: one that is a `Solution` of the library. -/
structure Item where
  id : Nat
  label : String
  amount : Value
  /-- Why its cost cannot be known. -/
  fault : Option Failure
  judgement : Judgement
  content : Content
  deriving Repr

/-- A thing that a factory gives: an `Item`, or nothing. -/
abbrev Product := Option Item

namespace Product

/-- What an item costs; nothing has no `costs`. -/
def costs : Product → Except Failure Value
  | none => .error (.absent "costs")
  | some item =>
    match item.fault with
    | some cause => .error cause
    | none => .ok item.amount

/-- The label of an item, which nothing has not. -/
def label : Product → Except Failure String
  | none => .error (.absent "label")
  | some item => .ok item.label

/-- How an item judges itself against another, as a `Preference`. It looks at the other's label
    first, so it cannot judge itself against nothing. -/
def preference : Product → Product → Preference
  | none, _ => .ruled (.error (.absent "is_better_than"))
  | some _, none => .ruled (.error (.absent "label"))
  | some item, some other =>
    match item.judgement with
    | .lowerCost => .lowerCost
    | .higherCost => .higherCost
    | .beats labels => .ruled (.ok (labels.contains other.label))

instance : Candidate Product where
  costs := costs
  text
    | none => "None"
    | some item => "<" ++ item.label ++ ">"
  preference := preference

/-- Whether two products are one and the same. -/
def isSame : Product → Product → Bool
  | none, none => true
  | some a, some b => a.id == b.id
  | _, _ => false

/-- The label of an item, or a dash. -/
def labelOrDash : Product → String
  | some item => item.label
  | none => "-"

end Product

/-- What an item is to be; `World.make` makes it. -/
structure ItemSpec where
  amount : Value := .none
  label : Option String := none
  fault : Option Failure := none
  judgement : Judgement := .lowerCost
  content : Content := .plain

/-- An item of a given cost. -/
def ItemSpec.costing (amount : Value) : ItemSpec := { amount }

end HillClimb.Scenario
