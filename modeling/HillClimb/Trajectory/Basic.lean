import HillClimb.Value.Basic

set_option autoImplicit false

/-! # Trajectories

The data of a `TrajectoryObserver`. A `Trajectory` holds the `costs` of the current solution after
the start and after every step, and for every step the `neighborCosts` and whether the neighbour was
`accepted`. These are three lists of their own, so a step whose recording fails may be in some of
them only. The `Recordings` are the trajectories of all observers. -/

namespace HillClimb

/-! ## Trails -/

/-- A list that grows at its end, with its newest element in front. -/
structure Trail (α : Type) where
  newestFirst : List α := []
  deriving Repr, Inhabited

namespace Trail

variable {α : Type}

/-- The `Trail` with one more element at its end. -/
def push (t : Trail α) (a : α) : Trail α := ⟨a :: t.newestFirst⟩

/-- The elements of a `Trail`, the oldest first. -/
def toList (t : Trail α) : List α := t.newestFirst.reverse

@[simp] theorem toList_nil : (⟨[]⟩ : Trail α).toList = [] := rfl

@[simp] theorem toList_push (t : Trail α) (a : α) : (t.push a).toList = t.toList ++ [a] := by
  simp [push, toList]

end Trail

/-! ## Trajectories -/

/-- What a `TrajectoryObserver` has recorded. -/
structure Trajectory where
  costs : Trail Value := {}
  neighborCosts : Trail Value := {}
  accepted : Trail Bool := {}
  deriving Repr, Inhabited

namespace Trajectory

/-- What is left after a `reset`. -/
def empty : Trajectory := {}

def pushCosts (t : Trajectory) (v : Value) : Trajectory := { t with costs := t.costs.push v }

/-- Records the neighbour of a step, in `neighborCosts` and in `accepted`. -/
def pushNeighbor (t : Trajectory) (v : Value) (accepted : Bool) : Trajectory :=
  { t with neighborCosts := t.neighborCosts.push v, accepted := t.accepted.push accepted }

/-- The `acceptance_rate`: the part of the recorded steps whose neighbour was `accepted`; zero if
    there are none. -/
def acceptanceRate (t : Trajectory) : Binary64 :=
  let flags := t.accepted.toList
  if flags.isEmpty then .finite false 0 0 else Binary64.ofRatio (flags.count true) flags.length

end Trajectory

/-- The number by which an observer is known. -/
abbrev ObserverId := Nat

/-- The `Trajectory` of every observer that records one, by its `ObserverId`. -/
structure Recordings where
  entries : List (ObserverId × Trajectory) := []
  deriving Repr, Inhabited

namespace Recordings

/-- The first `Trajectory` in the list under the number of the observer; `Trajectory.empty` if there
    is none. -/
def lookup : List (ObserverId × Trajectory) → ObserverId → Trajectory
  | [], _ => .empty
  | (key, t) :: rest, o => if key = o then t else lookup rest o

/-- Puts a `Trajectory` in the place of the observer's former one. -/
def replace : List (ObserverId × Trajectory) → ObserverId → Trajectory →
    List (ObserverId × Trajectory)
  | [], o, t => [(o, t)]
  | (key, old) :: rest, o, t =>
    if key = o then (key, t) :: rest else (key, old) :: replace rest o t

/-- What an observer has recorded. -/
def of (r : Recordings) (o : ObserverId) : Trajectory := lookup r.entries o

/-- The `Recordings` with another `Trajectory` for an observer. -/
def put (r : Recordings) (o : ObserverId) (t : Trajectory) : Recordings :=
  ⟨replace r.entries o t⟩

/-- What an observer has recorded, and the `Recordings` without it. -/
def take (r : Recordings) (o : ObserverId) : Trajectory × Recordings :=
  (r.of o, r.put o .empty)

theorem lookup_replace (entries : List (ObserverId × Trajectory)) (o p : ObserverId)
    (t : Trajectory) :
    lookup (replace entries o t) p = if o = p then t else lookup entries p := by
  induction entries with
  | nil => by_cases h : o = p <;> simp [replace, lookup, h]
  | cons entry rest ih =>
    obtain ⟨key, old⟩ := entry
    by_cases hk : key = o
    · subst hk
      by_cases hp : key = p <;> simp [replace, lookup, hp]
    · rw [replace, if_neg hk, lookup, lookup, ih]
      by_cases hp : key = p
      · simp [hp, show o ≠ p from fun e => hk (hp.trans e.symm)]
      · simp [hp]

/-- What was `put` is found, and the trajectories of the others stay. -/
theorem of_put (r : Recordings) (o p : ObserverId) (t : Trajectory) :
    (r.put o t).of p = if o = p then t else r.of p :=
  lookup_replace r.entries o p t

/-- What `take` gave can be `put` back in any form. -/
theorem of_put_take (r : Recordings) (o p : ObserverId) (t : Trajectory) :
    ((r.take o).2.put o t).of p = (r.put o t).of p := by
  rw [take, of_put, of_put, of_put]
  by_cases h : o = p <;> simp [h]

end Recordings

end HillClimb
