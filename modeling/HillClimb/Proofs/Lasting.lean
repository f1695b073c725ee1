import HillClimb.Proofs.Nesting
import HillClimb.Proofs.Transitions

set_option autoImplicit false

/-! # Properties of searches that last

A property of searches lasts if every single thing that can befall a search keeps it
(`LocalSearch.Lasting`): work beside the solver, a look (`Machine.glimpsed`), a new observer
(`Machine.observed`), a count of rejections that is overwritten (`Machine.overwritten`), a
recording, and a transition. Such a property is an invariant of calls and programs, however they
nest, fail, or remain unfinished (`Lasting.upheld`, `Lasting.holds`). -/

namespace HillClimb

variable {W S : Type} [Candidate S]

/-! ## What befalls a search between transitions -/

namespace Machine

/-- Somebody looks at the search: one entry more, which has a `Sight`. -/
def glimpsed (m : Machine W (LocalSearch W S) S) (entry : Sight S → Entry S) :
    Machine W (LocalSearch W S) S :=
  { m with transcript := m.transcript.push (entry (LocalSearch.method.sight m)) }

/-- An observer is added at the end of the list. -/
def observed (m : Machine W (LocalSearch W S) S) (o : ObserverId) :
    Machine W (LocalSearch W S) S :=
  { m with solver := { m.solver with observers := m.solver.observers.push o } }

/-- The count of rejections is overwritten. -/
def overwritten (m : Machine W (LocalSearch W S) S) (n : Int) : Machine W (LocalSearch W S) S :=
  { m with
    transcript := m.transcript.push (.overwritten n)
    solver := { m.solver with inner := { m.solver.inner with stagnation := n } } }

theorem past_glimpsed (m : Machine W (LocalSearch W S) S) (entry : Sight S → Entry S) :
    (m.glimpsed entry).past = m.past ++ [entry (LocalSearch.method.sight m)] :=
  Array.toList_push

omit [Candidate S] in
theorem past_overwritten (m : Machine W (LocalSearch W S) S) (n : Int) :
    (m.overwritten n).past = m.past ++ [.overwritten n] :=
  Array.toList_push

/-- A look commits nothing. -/
theorem stretch_glimpsed (m : Machine W (LocalSearch W S) S) {entry : Sight S → Entry S}
    (hentry : ∀ seen, (entry seen).sight? = some seen) :
    stretchOf (m.glimpsed entry).past = stretchOf m.past := by
  rw [past_glimpsed, stretchOf_concat,
    Stretch.after_of_not_isCommit _ (Entry.isCommit_of_sight? (hentry _)).1]

omit [Candidate S] in
theorem stretch_overwritten (m : Machine W (LocalSearch W S) S) (n : Int) :
    stretchOf (m.overwritten n).past = stretchOf m.past := by
  rw [past_overwritten, stretchOf_concat]
  rfl

end Machine

namespace EverySight

variable {R : List (Entry S) → Entry S → Sight S → Prop} {m : Machine W (LocalSearch W S) S}

/-- What is seen now agrees with what happened before. -/
theorem glimpsed (h : EverySight R m.past) {entry : Sight S → Entry S}
    (hentry : ∀ seen, (entry seen).sight? = some seen)
    (hR : R m.past (entry (LocalSearch.method.sight m)) (LocalSearch.method.sight m)) :
    EverySight R (m.glimpsed entry).past := by
  rw [Machine.past_glimpsed]
  refine Everywhere.concat h fun seen hseen => ?_
  rw [hentry, Option.some.injEq] at hseen
  rw [← hseen]
  exact hR

omit [Candidate S] in
theorem overwritten (h : EverySight R m.past) (n : Int) :
    EverySight R (m.overwritten n).past := by
  rw [Machine.past_overwritten]
  exact h.append (by simp [Entry.sight?])

end EverySight

/-- Recording is work beside the solver, apart from what is recorded. -/
theorem Action.aside_record {I : Type} (method : Method W I S) (o : ObserverId) (news : News S)
    (m : Machine W I S) :
    ∃ r : Recordings,
      Machine.Aside { m with recordings := r } ((Action.record method o news).runOn m).2 := by
  refine ⟨_, rfl, rfl, rfl, (((Recording.record (method.current m.solver.inner) news).run
    ⟨m.recordings.of o, #[]⟩).2.probes.map Entry.probed).toList, ?_, Array.toList_append⟩
  intro e he
  obtain ⟨p, -, rfl⟩ := Array.mem_map.1 (Array.mem_toList_iff.1 he)
  rfl

namespace LocalSearch

/-! ## Lasting properties -/

/-- Whatever befalls a search keeps the property `P`. The transitions are given by what can come of
    them, as `Entered` and `Strode`. -/
structure Lasting (P : Machine W (LocalSearch W S) S → Prop) : Prop where
  aside : ∀ m m', P m → m.Aside m' → P m'
  recorded : ∀ m r, P m → P { m with recordings := r }
  glimpsed : ∀ m entry, (∀ seen, (entry seen).sight? = some seen) → P m → P (m.glimpsed entry)
  observed : ∀ m o, P m → P (m.observed o)
  overwritten : ∀ m n, P m → P (m.overwritten n)
  entered : ∀ m result, P m → Entered m result → P result.2
  strode : ∀ m result, P m → Strode m result → P result.2

variable {P : Machine W (LocalSearch W S) S → Prop}

omit [Candidate S] in
/-- Work beside the solver keeps what it does not touch. -/
theorem keeps_of_beside {α : Type} (haside : ∀ m m', P m → m.Aside m' → P m')
    {U : Machine W (LocalSearch W S) S → Prop} {x : Action W (LocalSearch W S) S α}
    (hx : x.Beside) : Action.Keeps P U x := by
  intro m hP
  obtain ⟨ha, hend⟩ := hx m
  exact Action.after_of_ended hend (haside m _ hP ha)

namespace Lasting

theorem keeps_glimpse (h : Lasting P) {entry : Sight S → Entry S}
    (hentry : ∀ seen, (entry seen).sight? = some seen) :
    Action.Keeps P P (LocalSearch.method.noteSeen entry : Action W (LocalSearch W S) S Unit) :=
  .of_run (fun _ => rfl) fun m hP => h.glimpsed m entry hentry hP

theorem keeps_record (h : Lasting P) (o : ObserverId) (news : News S) :
    Action.Keeps P P (Action.record LocalSearch.method o news) := by
  intro m hP
  obtain ⟨r, ha⟩ := Action.aside_record LocalSearch.method o news m
  exact Action.after_of_all (h.aside _ _ (h.recorded m r hP) ha)

theorem harmless (h : Lasting P) : Program.Harmless LocalSearch.method P P where
  hook x := keeps_of_beside h.aside (.hook x)
  looked := h.keeps_glimpse fun _ => rfl
  read _ := h.keeps_glimpse fun _ => rfl
  resumed := h.keeps_glimpse fun _ => rfl

theorem keeps_notify (h : Lasting P) (cast : Cast W S)
    {serve : Call → Action W (LocalSearch W S) S Unit} (hs : ∀ c, Action.Keeps P P (serve c))
    (news : News S) (place : Nat) (o : ObserverId) :
    Action.Keeps P P (Solver.notify LocalSearch.method cast serve news place o) :=
  Solver.keeps_notify cast h.harmless hs (h.keeps_glimpse fun _ => rfl) (h.keeps_record o news)

theorem keeps_enter (h : Lasting P) :
    Action.Keeps P P (Solver.enter LocalSearch.method : Action W (LocalSearch W S) S _) :=
  fun m hP => Action.after_of_all (h.entered m _ hP (entered_enter m))

theorem keeps_stride (h : Lasting P) :
    Action.Keeps P P (Solver.stride LocalSearch.method : Action W (LocalSearch W S) S _) :=
  fun m hP => Action.after_of_all (h.strode m _ hP (strode_stride m))

/-- A property that lasts is an invariant of all calls, in which news make nothing good. -/
theorem upheld (h : Lasting P) (cast : Cast W S) :
    Solver.Upheld LocalSearch.method cast P P fun _ => P where
  toHarmless := h.harmless
  rest _ hP := hP
  restDue _ _ hP := hP
  enter := h.keeps_enter
  stride := h.keeps_stride
  alone _ _ hP _ := hP
  first _ hs news o := (h.keeps_notify cast hs news 0 o).imp (fun _ hP => hP.1) fun _ _ hP => hP
  later _ hs news place o :=
    (h.keeps_notify cast hs news (place + 1) o).imp (fun _ hP => hP.1) fun _ _ hP => hP
  stopAsked := h.keeps_glimpse fun _ => rfl
  log text := keeps_of_beside h.aside (.log _ _ text [])
  observe o := .of_run (fun _ => rfl) fun m hP => h.observed m o hP
  overwrite n := .of_run (fun _ => rfl) fun m hP => h.overwritten m n hP

/-- What lasts holds after every program (`Program.play`), whether it ended or remained
    unfinished. -/
theorem holds {α : Type} (h : Lasting P) (cast : Cast W S) (fuel : Nat) (caller : Program W S α)
    {m : Machine W (LocalSearch W S) S} (hP : P m) :
    P ((caller.play LocalSearch.method (Solver.serve LocalSearch.method cast fuel)).runOn m).2 :=
  ((h.upheld cast).play fuel caller).leaves (fun _ hP => hP) hP

end Lasting

/-- The history only grows. -/
theorem lasting_past (past : List (Entry S)) :
    Lasting fun m : Machine W (LocalSearch W S) S => past <+: m.past where
  aside m m' h ha := by
    obtain ⟨work, -, hpast⟩ := ha.past
    rw [hpast]
    exact h.trans (List.prefix_append _ _)
  recorded _ _ h := h
  glimpsed m entry _ h := by
    rw [Machine.past_glimpsed]
    exact h.trans (List.prefix_append _ _)
  observed _ _ h := h
  overwritten m n h := by
    rw [Machine.past_overwritten]
    exact h.trans (List.prefix_append _ _)
  entered m result h hm := by
    obtain ⟨l, -, hpast⟩ := hm.unseen.past
    rw [hpast]
    exact h.trans (List.prefix_append _ _)
  strode m result h hm := by
    obtain ⟨l, -, hpast⟩ := hm.unseen.past
    rw [hpast]
    exact h.trans (List.prefix_append _ _)

end LocalSearch

end HillClimb
