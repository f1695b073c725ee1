import HillClimb.Proofs.History

set_option autoImplicit false

/-! # Histories that retell others

The histories of two searches that do the same differ in what was seen, since observers may have
recorded different things, and in what only one of the searches has: observers that are told besides
the others, and programs that add them. A history retells another one if this is all that they
differ by (`Retells`). -/

namespace HillClimb

variable {S : Type}

namespace Entry

/-- The entry with another sight, and at another place of the list of observers. -/
def reseen (place : Nat) (seen : Sight S) : Entry S → Entry S
  | .notified _ o news _ => .notified place o news seen
  | .stopAsked _ => .stopAsked seen
  | .looked _ => .looked seen
  | .read o _ => .read o seen
  | .resumed _ => .resumed seen
  | e => e

/-- The observer that was told. -/
def told? : Entry S → Option ObserverId
  | .notified _ o _ _ => some o
  | _ => none

end Entry

/-- What is seen is the same, apart from what the `hidden` observers have recorded. -/
def Sight.SameBut (hidden : ObserverId → Bool) (seen seen' : Sight S) : Prop :=
  seen'.toView = seen.toView ∧
    ∀ o, hidden o = false → seen'.recordings.of o = seen.recordings.of o

/-- The second history retells the first one. What was seen is `alike`, given what had happened
    before. Observers that are `extra`, and the costs that were asked for when they were told, are
    left out, and so are the moments at which a program went on after it had added one. -/
inductive Retells (alike : List (Entry S) → Sight S → Sight S → Prop)
    (extra : ObserverId → Bool) : List (Entry S) → List (Entry S) → Prop
  | nil : Retells alike extra [] []
  | same {l l' : List (Entry S)} {e : Entry S} (h : Retells alike extra l l')
      (he : e.sight? = none) : Retells alike extra (l ++ [e]) (l' ++ [e])
  | seen {l l' : List (Entry S)} {e : Entry S} {seen seen' : Sight S} {place : Nat}
      (h : Retells alike extra l l') (he : e.sight? = some seen)
      (hcommon : ∀ o, e.told? = some o → extra o = false) (halike : alike l seen seen') :
      Retells alike extra (l ++ [e]) (l' ++ [e.reseen place seen'])
  | told {l l' : List (Entry S)} {place : Nat} {o : ObserverId} {news : News S} {seen : Sight S}
      {asked : List S} (h : Retells alike extra l l') (ho : extra o = true) :
      Retells alike extra
        (l ++ .notified place o news seen :: asked.map fun s => .probed (.costs s)) l'
  | added {l l' : List (Entry S)} {seen : Sight S} (h : Retells alike extra l l') :
      Retells alike extra (l ++ [.resumed seen]) l'

namespace Retells

variable {alike : List (Entry S) → Sight S → Sight S → Prop} {extra : ObserverId → Bool}
  {l l' : List (Entry S)}

/-- Both histories go on with the same. -/
theorem append (h : Retells alike extra l l') {work : List (Entry S)}
    (hwork : ∀ e ∈ work, e.sight? = none) : Retells alike extra (l ++ work) (l' ++ work) := by
  induction work generalizing l l' with
  | nil => simpa using h
  | cons e work ih =>
    rw [List.append_cons, List.append_cons l']
    exact ih (h.same (hwork e List.mem_cons_self)) fun e' he' =>
      hwork e' (List.mem_cons_of_mem _ he')

end Retells

end HillClimb
