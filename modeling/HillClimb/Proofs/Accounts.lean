import HillClimb.Proofs.InvariantPair

set_option autoImplicit false

/-! # Who asks

Every question that is asked of solutions is written down right after the entry that tells on whose
behalf it was asked: a factory, a maker or an acceptance rule that was consulted, an observer that
was told, a program that was going on. If no records for debugging are written, a search itself asks
nothing: no question is asked after a commit, and all the others are those of somebody's hook
(`Accounted`).

`Entry.Asks` says which questions may follow an entry. The invariant of calls is `Audited`
(`Unrecorded.invariantPair`), and `Program.accounted_outcome` is what follows for a program as a
whole. -/

namespace HillClimb

variable {W S α : Type} [Candidate S]

/-! ## Accounts -/

/-- At some `HookState` these are the questions of the hook. -/
def Hook.Asks (h : Hook W S α) (asked : List (Probe S)) : Prop :=
  ∃ world generators, asked = (h.runAt ⟨world, generators, #[]⟩).2.probes.toList

/-- These questions may follow the entry in the history of a search. A commit is followed by
    none. -/
def Entry.Asks (cast : Cast W S) (s : Solver (LocalSearch W S)) (asked : List (Probe S)) :
    Entry S → Prop
  | .startCalled => asked = [] ∨ ∃ make, s.inner.initialMaker = some make ∧ make.Asks asked
  | .stepCalled => asked = [] ∨ ∃ make steps current,
      s.inner.neighborMaker = some make ∧ (make steps current).Asks asked
  | .initialAsked => ∃ factory, s.inner.factory = some factory ∧
      (factory.createInitial s.generator).Asks asked
  | .neighborAsked current => ∃ factory, s.inner.factory = some factory ∧
      (factory.createNeighbor current s.generator).Asks asked
  | .acceptanceAsked _ neighbor current => ∃ rule, ∃ solver : AskingSolver W S,
      s.inner.acceptance = some rule ∧ solver.current = current ∧
        solver.comparator = s.inner.comparator ∧ solver.generator = s.generator ∧
        (rule.accepts neighbor current solver).Asks asked
  | .notified _ o news seen =>
    match cast.observer o with
    | .silent => asked = []
    | .recorder => ∃ t,
        asked = ((Recording.record seen.current news).run ⟨t, #[]⟩).2.probes.toList
    | .custom _ => True
  | .stopAsked _ => True
  | .looked _ => True
  | .read _ _ => True
  | .resumed _ => True
  | .started _ => asked = []
  | .decided .. => asked = []
  | .overwritten _ => asked = []
  | .probed _ => False

/-- All questions are accounted for: those of the caller, who may ask some before all else, and
    those that follow the other entries. -/
inductive Accounted (cast : Cast W S) (s : Solver (LocalSearch W S)) : List (Entry S) → Prop
  | caller (asked : List (Probe S)) : Accounted cast s (asked.map .probed)
  | block {past : List (Entry S)} (h : Accounted cast s past) {e : Entry S}
      {asked : List (Probe S)} (hasks : e.Asks cast s asked) :
      Accounted cast s (past ++ e :: asked.map .probed)

/-- The history ends with the questions of a program, which may ask more. -/
inductive Attended (cast : Cast W S) (s : Solver (LocalSearch W S)) : List (Entry S) → Prop
  | caller (asked : List (Probe S)) : Attended cast s (asked.map .probed)
  | program {past : List (Entry S)} (h : Accounted cast s past) {e : Entry S}
      (hasks : ∀ asked, e.Asks cast s asked) (asked : List (Probe S)) :
      Attended cast s (past ++ e :: asked.map .probed)

section

variable {cast : Cast W S} {s : Solver (LocalSearch W S)} {past : List (Entry S)}

theorem Attended.accounted (h : Attended cast s past) : Accounted cast s past := by
  cases h with
  | caller asked => exact .caller asked
  | program h hasks asked => exact h.block (hasks asked)

/-- A program may always ask more. -/
theorem Attended.asked (h : Attended cast s past) (more : List (Probe S)) :
    Attended cast s (past ++ more.map .probed) := by
  cases h with
  | caller asked =>
    rw [← List.map_append]
    exact .caller (asked ++ more)
  | program h hasks asked =>
    rw [List.append_assoc, List.cons_append, ← List.map_append]
    exact .program h hasks (asked ++ more)

/-- Nothing is asked after the entry. -/
theorem Accounted.concat (h : Accounted cast s past) {e : Entry S} (hasks : e.Asks cast s []) :
    Accounted cast s (past ++ [e]) :=
  h.block hasks

end

/-! ## Searches without records for debugging -/

/-- The search writes no records for debugging, is made as it was, and of its history this is
    known. -/
structure Unrecorded (s : Solver (LocalSearch W S)) (known : List (Entry S) → Prop)
    (m : Machine W (LocalSearch W S) S) : Prop where
  quiet : Level.debug < m.level
  made : m.solver.blank = s
  past : known m.past

/-- All questions are accounted for: the history is `Accounted`. -/
abbrev Audited (cast : Cast W S) (s : Solver (LocalSearch W S)) :
    Machine W (LocalSearch W S) S → Prop :=
  Unrecorded s (Accounted cast s)

/-- Besides, a program is going on: the history is `Attended`. -/
abbrev Occupied (cast : Cast W S) (s : Solver (LocalSearch W S)) :
    Machine W (LocalSearch W S) S → Prop :=
  Unrecorded s (Attended cast s)

/-- The entry was written down last, and nothing was asked since. -/
abbrev Expecting (cast : Cast W S) (s : Solver (LocalSearch W S)) (e : Entry S) :
    Machine W (LocalSearch W S) S → Prop :=
  Unrecorded s fun past => ∃ before, past = before ++ [e] ∧ Accounted cast s before

namespace Unrecorded

variable {cast : Cast W S} {s : Solver (LocalSearch W S)} {m m' : Machine W (LocalSearch W S) S}
  {known known' : List (Entry S) → Prop} {e : Entry S}

omit [Candidate S] in
theorem imp (h : Unrecorded s known m) (hknown : ∀ past, known past → known' past) :
    Unrecorded s known' m :=
  ⟨h.quiet, h.made, hknown _ h.past⟩

omit [Candidate S] in
theorem aside (h : Unrecorded s known m) (ha : m.Aside m') (hknown : known' m'.past) :
    Unrecorded s known' m' :=
  ⟨ha.level ▸ h.quiet, by rw [ha.solver, h.made], hknown⟩

omit [Candidate S] in
/-- The hooks are those that the search was made with: all but where it is. -/
theorem inner (h : Unrecorded s known m) :
    s.inner = { m.solver.inner with current := none, stagnation := 0 } := by
  rw [← h.made]
  rfl

omit [Candidate S] in
theorem generator (h : Unrecorded s known m) : s.generator = m.solver.generator := by
  rw [← h.made]
  rfl

/-- Nobody asked. -/
theorem audited (h : Expecting cast s e m) (hasks : e.Asks cast s []) : Audited cast s m := by
  refine h.imp ?_
  rintro _ ⟨before, rfl, hbefore⟩
  exact hbefore.concat hasks

theorem leads_note (he : e.isWork) :
    Action.Leads (Audited cast s) (Action.note e : Action W (LocalSearch W S) S Unit)
      (fun _ => Expecting cast s e) fun _ => Audited cast s := by
  intro m h
  rw [Action.run_note_worked]
  have hnoted := Action.Beside.note he m
  rw [Action.run_note_worked] at hnoted
  exact h.aside hnoted.1 ⟨m.past, m.past_worked _ _ _, h.past⟩

/-- A hook asks what it asks, right after the entry that tells of it. -/
theorem leads_hook {k : Hook W S α} (hasks : ∀ asked, k.Asks asked → e.Asks cast s asked) :
    Action.Leads (Expecting cast s e) (Action.hook k : Action W (LocalSearch W S) S α)
      (fun _ => Audited cast s) fun _ => Audited cast s := by
  refine .of_all fun m h => h.aside (Action.Beside.hook k m).1 ?_
  obtain ⟨before, hpast, hbefore⟩ := h.past
  rw [Action.run_hook_worked]
  dsimp only
  rw [Machine.past_worked, hpast, List.append_assoc, List.singleton_append]
  exact hbefore.block (hasks _ ⟨_, _, rfl⟩)

/-! ## Transitions -/

theorem leads_requireFactory :
    Action.Leads (Audited cast s)
      (LocalSearch.requireFactory : Action W (LocalSearch W S) S (Factory W S))
      (fun factory m => Audited cast s m ∧ s.inner.factory = some factory)
      fun _ => Audited cast s := by
  intro m h
  simp only [LocalSearch.requireFactory, Action.run_bind, Action.run_get]
  cases hfactory : m.solver.inner.factory with
  | none => exact h
  | some factory => exact ⟨h, by rw [h.inner]; exact hfactory⟩

/-- The factory is asked on behalf of the entry. -/
theorem leads_requested (he : e.isWork) (create : Factory W S → Hook W S S)
    (hasks : ∀ factory, s.inner.factory = some factory → ∀ asked,
      (create factory).Asks asked → e.Asks cast s asked) :
    Action.Leads (Audited cast s)
      (do
        let factory ← LocalSearch.requireFactory
        Action.note e
        Action.hook (create factory) : Action W (LocalSearch W S) S S)
      (fun _ => Audited cast s) fun _ => Audited cast s :=
  leads_requireFactory.bind fun factory m h =>
    ((leads_note he).bind fun _ => leads_hook (hasks factory h.2)) m h.1

theorem leads_createInitial :
    Action.Leads (Expecting cast s .startCalled)
      (LocalSearch.createInitial : Action W (LocalSearch W S) S S)
      (fun _ => Audited cast s) fun _ => Audited cast s := by
  intro m h
  simp only [LocalSearch.createInitial, Action.run_bind, Action.run_get]
  cases hmaker : m.solver.inner.initialMaker with
  | some make =>
    refine leads_hook (e := .startCalled) (fun asked hasks => .inr ⟨make, ?_, hasks⟩) m h
    rw [h.inner]
    exact hmaker
  | none =>
    refine leads_requested (e := .initialAsked) rfl
      (fun factory => factory.createInitial m.solver.generator) ?_ m (h.audited (.inl rfl))
    rw [← h.generator]
    exact fun factory hfactory asked hasks => ⟨factory, hfactory, hasks⟩

theorem leads_createNeighbor :
    Action.Leads (Expecting cast s .stepCalled)
      (LocalSearch.createNeighbor : Action W (LocalSearch W S) S S)
      (fun _ => Audited cast s) fun _ => Audited cast s := by
  intro m h
  simp only [LocalSearch.createNeighbor, Action.run_bind, Action.run_get]
  cases hmaker : m.solver.inner.neighborMaker with
  | some make =>
    refine leads_hook (e := .stepCalled) (fun asked hasks =>
      .inr ⟨make, _, _, ?_, hasks⟩) m h
    rw [h.inner]
    exact hmaker
  | none =>
    refine leads_requested (e := .neighborAsked m.solver.inner.current) rfl
      (fun factory => factory.createNeighbor m.solver.inner.current m.solver.generator) ?_ m
      (h.audited (.inl rfl))
    rw [← h.generator]
    exact fun factory hfactory asked hasks => ⟨factory, hfactory, hasks⟩

theorem leads_decide (neighbor : S) :
    Action.Leads (Audited cast s)
      (LocalSearch.decide neighbor : Action W (LocalSearch W S) S Bool)
      (fun _ => Audited cast s) fun _ => Audited cast s := by
  intro m h
  have hcomparator : s.inner.comparator = m.solver.inner.comparator := by rw [h.inner]
  simp only [LocalSearch.decide, Action.run_bind, Action.run_get]
  cases hrule : m.solver.inner.acceptance with
  | none => exact h
  | some rule =>
    refine ((leads_note (e := .acceptanceAsked rule.isCustom neighbor m.solver.inner.current)
      rfl).bind fun _ => leads_hook fun asked hasks => ?_) m h
    have hrule : s.inner.acceptance = some rule := by
      rw [h.inner]
      exact hrule
    exact ⟨rule, LocalSearch.asking m.solver, hrule, rfl, hcomparator.symm, h.generator.symm, hasks⟩

theorem leads_deliberating :
    Action.Leads (Audited cast s)
      (LocalSearch.deliberating : Action W (LocalSearch W S) S (S × Bool))
      (fun _ => Audited cast s) fun _ => Audited cast s := by
  refine (leads_note rfl).bind fun _ m h => ?_
  have hasked : Action.Leads (Expecting cast s .stepCalled)
      (do
        let neighbor ← LocalSearch.createNeighbor
        let accepted ← LocalSearch.decide neighbor
        return (neighbor, accepted) : Action W (LocalSearch W S) S (S × Bool))
      (fun _ => Audited cast s) fun _ => Audited cast s :=
    leads_createNeighbor.bind fun neighbor => (leads_decide neighbor).bind fun accepted =>
      .pure fun _ h => h
  rw [Action.run_bind, Action.run_get]
  dsimp only
  split
  · exact h.audited (.inl rfl)
  · exact hasked m h

/-- Nothing is asked after the commit of a start. -/
theorem leads_opening (initial : S) :
    Action.Leads (Audited cast s)
      (LocalSearch.opening initial : Action W (LocalSearch W S) S (News S))
      (fun _ => Audited cast s) fun _ => Audited cast s := by
  intro m h
  rw [LocalSearch.run_opening_quiet h.quiet]
  refine ⟨h.quiet, h.made, ?_⟩
  have hpast : (m.chosen initial).opened.past = _ := m.past_chosen initial
  rw [hpast]
  exact h.past.concat rfl

/-- Nothing is asked after the commit of a step. -/
theorem leads_closing (neighbor : S) (accepted : Bool) :
    Action.Leads (Audited cast s)
      (LocalSearch.closing neighbor accepted : Action W (LocalSearch W S) S (News S))
      (fun _ => Audited cast s) fun _ => Audited cast s := by
  intro m h
  rw [LocalSearch.run_closing_quiet h.quiet]
  refine ⟨h.quiet, (m.blank_judged neighbor accepted).trans h.made, ?_⟩
  have hpast : (m.judged neighbor accepted).counted.past = _ := m.past_judged neighbor accepted
  rw [hpast]
  exact h.past.concat rfl

theorem leads_enter :
    Action.Leads (Audited cast s)
      (Solver.enter LocalSearch.method : Action W (LocalSearch W S) S (News S))
      (fun _ => Audited cast s) fun _ => Audited cast s := by
  rw [LocalSearch.enter_eq]
  exact ((leads_note rfl).bind fun _ => leads_createInitial).bind leads_opening

theorem leads_stride :
    Action.Leads (Audited cast s)
      (Solver.stride LocalSearch.method : Action W (LocalSearch W S) S (News S))
      (fun _ => Audited cast s) fun _ => Audited cast s := by
  rw [LocalSearch.stride_eq]
  exact leads_deliberating.bind fun decision => leads_closing decision.1 decision.2

/-! ## Between transitions -/

/-- A program that comes after the entry may ask what it likes. -/
theorem glimpsed (h : Audited cast s m) {entry : Sight S → Entry S}
    (hasks : ∀ seen asked, (entry seen).Asks cast s asked) :
    Occupied cast s (m.glimpsed entry) :=
  ⟨h.quiet, h.made, by rw [m.past_glimpsed]; exact .program h.past (hasks _) []⟩

/-- A hook of a program asks on behalf of the program. -/
theorem hooked (h : Occupied cast s m) (k : Hook W S α) :
    Occupied cast s ((Action.hook k).runOn m).2 := by
  refine h.aside (Action.Beside.hook k m).1 ?_
  rw [Action.run_hook_worked]
  dsimp only
  rw [Machine.past_worked]
  exact h.past.asked _

/-- What a recording asks is accounted for. -/
theorem recorded (h : Audited cast s m) {o : ObserverId} (ho : cast.observer o = .recorder)
    (place : Nat) (news : News S) :
    Audited cast s ((Action.record LocalSearch.method o news).runOn
      (m.glimpsed (.notified place o news))).2 := by
  refine ⟨h.quiet, h.made, ?_⟩
  rw [Action.past_record, m.past_glimpsed, List.append_assoc, List.singleton_append]
  refine h.past.block ?_
  simp only [Entry.Asks, ho]
  exact ⟨_, rfl⟩

omit [Candidate S] in
theorem logged (h : Unrecorded s known m) (text : String) : Unrecorded s known (m.logged text) := by
  obtain ⟨journal, hlogged⟩ := m.logged_eq text
  rw [hlogged]
  exact ⟨h.quiet, h.made, h.past⟩

/-- All questions stay accounted for, in the sense of `Solver.InvariantPair`. -/
theorem invariantPair (cast : Cast W S) (s : Solver (LocalSearch W S)) :
    Solver.InvariantPair cast (Audited cast s) (Occupied cast s) fun _ _ => True where
  rest m h := h.imp fun _ => Attended.accounted
  looked m h := (h.imp fun _ => Attended.accounted).glimpsed fun _ _ => trivial
  read m _ h := (h.imp fun _ => Attended.accounted).glimpsed fun _ _ => trivial
  resumed m h := h.glimpsed fun _ _ => trivial
  stopAsked m h := h.glimpsed fun _ _ => trivial
  hook k m h := h.hooked k
  enter := leads_enter.imp (fun _ h => h) fun _ _ h => ⟨h, trivial⟩
  stride := leads_stride.imp (fun _ h => h) fun _ _ h => ⟨h, trivial⟩
  pending _ _ _ _ _ := trivial
  silent m news place o ho h := by
    refine ⟨h.quiet, h.made, ?_⟩
    rw [m.past_glimpsed]
    exact h.past.concat (by simp [Entry.Asks, ho])
  recorder m news place o ho _ h := h.recorded ho place news
  custom m news place o react ho h := h.glimpsed fun _ _ => by simp [Entry.Asks, ho]
  logged m text h := h.logged text
  observed m o h := ⟨h.quiet, h.made, h.past⟩
  overwritten m n h := by
    refine ⟨h.quiet, h.made, ?_⟩
    rw [m.past_overwritten]
    exact h.past.concat rfl

end Unrecorded

/-- Without records for debugging, all questions that are asked in the course of a program are
    `Accounted` for. -/
theorem Program.accounted_outcome (caller : Program W S α) (cast : Cast W S) (fuel : Nat)
    {m : Machine W (LocalSearch W S) S} (hpast : m.past = []) (hquiet : Level.debug < m.level) :
    Accounted cast m.solver.blank (caller.outcome cast m fuel).2.past := by
  have hbegun : Occupied cast m.solver.blank m :=
    ⟨hquiet, rfl, by rw [hpast]; exact .caller []⟩
  exact ((Unrecorded.invariantPair cast _).holds caller fuel hbegun).past

end HillClimb
