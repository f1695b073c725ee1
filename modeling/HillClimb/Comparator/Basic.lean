import HillClimb.Hook

set_option autoImplicit false

/-! # Comparators

A `Comparator` tells whether one solution is strictly better than another: as the solution itself
judges, by costs, or by a rule of the caller's. `Comparator.isBetter` asks it one way round, and
`Comparator.compare` asks it both ways round, which gives a `Verdict`. -/

namespace HillClimb

/-- How a solution stands against another: the `Ordering` of the library. -/
inductive Verdict where
  | better | equal | worse
  deriving DecidableEq, Repr

/-- The verdict seen from the other side: `better` and `worse` are exchanged. -/
def Verdict.swap : Verdict → Verdict
  | .better => .worse
  | .equal => .equal
  | .worse => .better

/-- A strict order on solutions. -/
inductive Comparator (W S : Type) where
  /-- Each solution judges for itself: the `NaturalComparator`. -/
  | natural
  /-- The lower cost is better, or the higher one: the `CostComparator`. -/
  | cost (minimize : Bool)
  /-- A rule of the caller's. One that does not count is passed over where a comparator is looked
      for in several places. -/
  | custom (counts : Bool) (better : S → S → Hook W S Bool)

namespace Comparator

variable {W S : Type}

/-- Whether the comparator counts where one is looked for in several places. -/
def counts : Comparator W S → Bool
  | .custom counts _ => counts
  | _ => true

/-- The first comparator that `counts`, or else the natural one. -/
def firstCounting : List (Option (Comparator W S)) → Comparator W S
  | [] => .natural
  | some c :: rest => if c.counts then c else firstCounting rest
  | none :: rest => firstCounting rest

variable [Candidate S]

/-- Whether `a` is strictly better than `b`: the `is_better` of the comparator. -/
def isBetter (c : Comparator W S) (a b : S) : Hook W S Bool :=
  match c with
  | .natural => Hook.prefers a b
  | .cost minimize => Hook.relateCosts (if minimize then .less else .greater) a b
  | .custom _ better => do
    Hook.ask (.compared a b)
    better a b

/-- How `a` stands against `b`: the `compare` of the comparator. It is asked the second way round
    only if `a` is not better. -/
def compare (c : Comparator W S) (a b : S) : Hook W S Verdict := do
  if ← c.isBetter a b then return .better
  if ← c.isBetter b a then return .worse
  return .equal

end Comparator

end HillClimb
