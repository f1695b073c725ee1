import HillClimb.Comparator.Basic
import HillClimb.Log.Record

set_option autoImplicit false

/-! # Is a comparator a strict order?

A comparator is tried on a sample of solutions: on each alone, on the pairs at increasing places, on
the triples at three different places. The first violation found ends the trial.

* `irreflexivity?`, `asymmetry?` and `transitivity?` find the violations that `is_irreflexive`,
  `is_asymmetric` and `is_transitive` look for.
* `violation?` is `is_valid`: it looks for irreflexivity on the whole sample first, then for
  asymmetry, then for transitivity.
* A violation that is found is logged, and the `Finding` is what comes of it. -/

namespace HillClimb

/-- Why a comparator is no strict order on a sample. -/
inductive Violation (S : Type) where
  /-- A solution is better than itself. -/
  | reflexive (x : S)
  /-- Two solutions are better than one another. -/
  | symmetric (a b : S)
  /-- The first is better than the second and that than the third, but not the first than the
      third. -/
  | intransitive (a b c : S)
  deriving Repr

namespace Violation

variable {S : Type} [Candidate S]

/-- The wording of a violation, with the texts of the solutions. -/
def message : Violation S → String
  | .reflexive x => "Relação não é irreflexiva: " ++ Candidate.text x ++ " é melhor que si mesma."
  | .symmetric a b =>
    "Relação não é assimétrica: " ++ Candidate.text a ++ " e " ++ Candidate.text b ++
      " são melhores uma que a outra."
  | .intransitive a b c =>
    "Relação não é transitiva: " ++ Candidate.text a ++ " > " ++ Candidate.text b ++ " > " ++
      Candidate.text c ++ ", mas não " ++ Candidate.text a ++ " > " ++ Candidate.text c ++ "."

/-- The `WARNING` that is written of a violation (`Level.warning`). -/
def record (v : Violation S) : LogRecord := ⟨Level.warning, .validation, v.message, []⟩

end Violation

/-! ## What is tried -/

/-- The pairs at increasing places, in the order of the places: `combinations` of two. -/
def pairs {α : Type} : List α → List (α × α)
  | [] => []
  | x :: xs => xs.map (fun y => (x, y)) ++ pairs xs

/-- Each element with the others, in order. The first elements of `triples` are chosen so. -/
def selections {α : Type} : List α → List (α × List α)
  | [] => []
  | x :: xs => (x, xs) :: (selections xs).map fun (y, others) => (y, x :: others)

/-- The triples at three different places, in the order of the places: `permutations` of three. -/
def triples {α : Type} (xs : List α) : List (α × α × α) :=
  (selections xs).flatMap fun (a, others) =>
    (selections others).flatMap fun (b, rest) => rest.map fun c => (a, b, c)

/-- The first thing of which `test` says yes. No thing behind it is tried. -/
def firstWhere {W S α : Type} (test : α → Hook W S Bool) : List α → Hook W S (Option α)
  | [] => return none
  | x :: xs => do
    if ← test x then return some x
    firstWhere test xs

/-! ## The trials -/

namespace Comparator

variable {W S : Type} [Candidate S] (c : Comparator W S)

/-- The first solution that is better than itself, as `is_irreflexive` finds it. -/
def irreflexivity? (sample : List S) : Hook W S (Option (Violation S)) := do
  let found ← firstWhere (fun x => c.isBetter x x) sample
  return found.map .reflexive

/-- Whether two solutions are better than one another; the second question is asked only if the
    first is answered with yes. -/
def mutuallyBetter (a b : S) : Hook W S Bool := do
  if ← c.isBetter a b then c.isBetter b a else return false

/-- The first pair of solutions that are `mutuallyBetter`, as `is_asymmetric` finds it. -/
def asymmetry? (sample : List S) : Hook W S (Option (Violation S)) := do
  let found ← firstWhere (fun (a, b) => c.mutuallyBetter a b) (pairs sample)
  return found.map fun (a, b) => .symmetric a b

/-- Whether a chain of two improvements is no improvement as a whole. -/
def breaksChain (x y z : S) : Hook W S Bool := do
  if ← c.isBetter x y then
    if ← c.isBetter y z then
      return !(← c.isBetter x z)
  return false

/-- The first triple that `breaksChain`, as `is_transitive` finds it. -/
def transitivity? (sample : List S) : Hook W S (Option (Violation S)) := do
  let found ← firstWhere (fun (x, y, z) => c.breaksChain x y z) (triples sample)
  return found.map fun (x, y, z) => .intransitive x y z

/-- The first violation on the sample, as `is_valid` finds it. -/
def violation? (sample : List S) : Hook W S (Option (Violation S)) := do
  if let some v ← c.irreflexivity? sample then return some v
  if let some v ← c.asymmetry? sample then return some v
  c.transitivity? sample

end Comparator

/-! ## Findings -/

/-- What a trial comes to: what `is_valid` returns, and what is logged of it. -/
structure Finding where
  passed : Except Failure Bool
  records : List LogRecord

/-- What a trial with this outcome comes to, where records from `level` on are written. -/
def Finding.of {S : Type} [Candidate S] (level : Int)
    (outcome : Except Failure (Option (Violation S))) : Finding where
  passed := outcome.map Option.isNone
  records := match outcome with
    | .ok (some v) => [v.record].filter fun r => level ≤ r.level
    | _ => []

end HillClimb
