import HillClimb.Proofs.Peers

set_option autoImplicit false

/-! # Invariants while programs are busy

An invariant of a search may hold only between the calls of programs, while another one holds as
long as a program is busy, and it may rest on what is known of the news that are told
(`Solver.InvariantPair`). Such an invariant is proved here once for all calls, however they nest and
fail (`InvariantPair.holds`). A search runs in step with its copy (`Machine.Copied`), so what is
known of two searches (`Solver.Paired`) does it. -/

namespace HillClimb

variable {W S α : Type} [Candidate S]

/-! ## Copies -/

/-- The other machine is the same, but for its journal. -/
def Machine.Copied (m n : Machine W (LocalSearch W S) S) : Prop :=
  n = { m with journal := n.journal }

namespace Machine.Copied

variable {m n : Machine W (LocalSearch W S) S}

theorem glimpsed (h : m.Copied n) (entry : Sight S → Entry S) :
    (m.glimpsed entry).Copied (n.glimpsed entry) := by
  rw [h]
  rfl

omit [Candidate S] in
theorem logged (h : m.Copied n) (text text' : String) :
    (m.logged text).Copied (n.logged text') := by
  obtain ⟨journal, hleft⟩ := m.logged_eq text
  obtain ⟨journal', hright⟩ := n.logged_eq text'
  rw [hleft, hright, h]
  rfl

theorem congruent : LocalSearch.Congruent (Machine.Copied (W := W) (S := S)) where
  peers m n h := by
    rw [h]
    exact ⟨rfl, rfl, rfl, rfl, rfl⟩
  worked m n world generators work _ h := by
    rw [h]
    rfl
  level m n h := by rw [h]
  journaled m n journal journal' h := by
    rw [h]
    rfl
  view m n h := by rw [h]
  chosen m n initial h := by
    rw [h]
    rfl
  judged m n neighbor accepted h := by
    rw [h]
    rfl
  opened m n h := by
    rw [h]
    rfl
  counted m n h := by
    rw [h]
    rfl

end Machine.Copied

namespace Solver

/-! ## Invariants -/

/-- An invariant `K` that all calls keep, and an invariant `J` that holds while a program is busy
    between its calls. The news of a transition are told as long as they are `due`. -/
structure InvariantPair (cast : Cast W S) (K J : Machine W (LocalSearch W S) S → Prop)
    (due : News S → Machine W (LocalSearch W S) S → Prop) : Prop where
  rest : ∀ m, J m → K m
  looked : ∀ m, J m → J (m.glimpsed .looked)
  read : ∀ m o, J m → J (m.glimpsed (.read o))
  resumed : ∀ m, K m → J (m.glimpsed .resumed)
  stopAsked : ∀ m, K m → J (m.glimpsed .stopAsked)
  hook : ∀ (h : Hook W S Value) m, J m → J ((Action.hook h).runOn m).2
  enter : Action.Leads K (Solver.enter LocalSearch.method) (fun news m => K m ∧ due news m)
    fun _ => K
  stride : Action.Leads K (Solver.stride LocalSearch.method) (fun news m => K m ∧ due news m)
    fun _ => K
  pending : ∀ news m m', due news m → m.Grows m' → due news m'
  silent : ∀ m news place o, cast.observer o = .silent → K m →
    K (m.glimpsed (.notified place o news))
  recorder : ∀ m news place o, cast.observer o = .recorder → due news m → K m →
    K ((Action.record LocalSearch.method o news).runOn (m.glimpsed (.notified place o news))).2
  custom : ∀ m news place o react, cast.observer o = .custom react → K m →
    J (m.glimpsed (.notified place o news))
  logged : ∀ m text, K m → K (m.logged text)
  observed : ∀ m o, K m → K (m.observed o)
  overwritten : ∀ m n, K m → K (m.overwritten n)

namespace InvariantPair

variable {cast : Cast W S} {K J : Machine W (LocalSearch W S) S → Prop}
  {due : News S → Machine W (LocalSearch W S) S → Prop}

/-- The search and its copy go on alike, and the invariant is known of the search besides. -/
theorem paired (h : InvariantPair cast K J due) :
    Paired .free cast cast (fun m n => m.Copied n ∧ K m) (fun m n => m.Copied n ∧ J m) due where
  casts := .refl cast
  rest m n hm := ⟨hm.1, h.rest m hm.2⟩
  world m n hm := by rw [hm.1]
  phase m n hm := by rw [hm.1]
  observers m n hm := by
    rw [hm.1]
    simp [Pace.common, Pace.free]
  view m n hm := by rw [hm.1]
  recording m n o _ hm _ := by rw [hm.1]
  looked m n hm := ⟨hm.1.glimpsed _, h.looked m hm.2⟩
  read m n o _ hm := ⟨hm.1.glimpsed _, h.read m o hm.2⟩
  resumed m n hm := ⟨hm.1.glimpsed _, h.resumed m hm.2⟩
  stopAsked m n hm := ⟨hm.1.glimpsed _, h.stopAsked m hm.2⟩
  hook k := (Machine.Copied.congruent.hook k).along fun _ => .of_all (h.hook k)
  enter := (Machine.Copied.congruent.enter.along fun _ => h.enter).imp (fun _ _ hm => hm)
    (fun _ _ _ hm => ⟨⟨hm.1, hm.2.1⟩, hm.2.2⟩) fun _ _ hm => hm
  stride := (Machine.Copied.congruent.stride.along fun _ => h.stride).imp (fun _ _ hm => hm)
    (fun _ _ _ hm => ⟨⟨hm.1, hm.2.1⟩, hm.2.2⟩) fun _ _ hm => hm
  pending := h.pending
  silent m n news place place' o ho hplace hm := by
    rw [hplace.eq fun _ => rfl]
    exact ⟨hm.1.glimpsed _, h.silent m news place o ho hm.2⟩
  recorder m n news place place' o ho hplace hdue hm := by
    rintro _ _ rfl rfl -
    rw [hplace.eq fun _ => rfl, hm.1]
    exact ⟨rfl, rfl, h.recorder m news place o ho hdue hm.2⟩
  custom m n news place place' o react ho hplace hm := by
    rw [hplace.eq fun _ => rfl]
    exact ⟨hm.1.glimpsed _, h.custom m news place o react ho hm.2⟩
  extra m n news place o ho := nomatch ho
  added m n o ho := nomatch ho
  logged m n text text' hm := ⟨hm.1.logged text text', h.logged m text hm.2⟩
  observed m n o _ hm := by
    refine ⟨?_, h.observed m o hm.2⟩
    rw [hm.1]
    rfl
  overwritten m n k hm := by
    refine ⟨?_, h.overwritten m k hm.2⟩
    rw [hm.1]
    rfl

/-- What is invariant holds after every program, whether it ended or remained unfinished. -/
theorem holds (h : InvariantPair cast K J due) (caller : Program W S α) (fuel : Nat)
    {m : Machine W (LocalSearch W S) S} (hJ : J m) : K (caller.outcome cast m fuel).2 := by
  have hplayed := (h.paired.play fuel (.refl caller)).abreast m m ⟨rfl, hJ⟩
  exact ((hplayed.agree 0 trivial).same (fun _ _ => rfl) fun _ => rfl).2.2

end InvariantPair

end Solver

end HillClimb
