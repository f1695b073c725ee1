import HillClimb.Proofs.Commits
import HillClimb.Proofs.Peers
import HillClimb.Proofs.Retelling
import HillClimb.Proofs.Telling

set_option autoImplicit false

/-! # Restarts

A start that commits wipes out all that a search has been through: from then on the search goes as a
new one would that was made of the same parts (`Machine.renewed`). What observers have recorded
before is wiped out by the observers themselves, and only when they are told of the start
(`ToldStart`). So an observer that is not told, since one before it failed, keeps its old recording
(`restart_leaves_recording`), and may show it to whoever reads it before it is told; the result,
`restart_forgets_the_past`, is for programs that read late (`ReadsLate`).

The relation of the two searches is `Renewal`. It holds from the moment when both have committed
(`Renewal.restarted`), and calls keep it (`Renewal.paired`). -/

namespace HillClimb

variable {W S α : Type} [Candidate S]

/-! ## New searches of old parts -/

/-- The parts of a search, as they were put together, with another seed. -/
def Solver.renewed (s : Solver (LocalSearch W S)) (seed : Int) : Solver (LocalSearch W S) :=
  { s with
    seed := seed
    steps := 0
    phase := .uninitialized
    inner := { s.inner with current := none, stagnation := 0 } }

/-- A new search that is made of the parts of the old one, where its observers have recorded what is
    given. -/
def Machine.renewed (m : Machine W (LocalSearch W S) S) (seed : Int) (recordings : Recordings) :
    Machine W (LocalSearch W S) S :=
  { m with solver := m.solver.renewed seed, recordings, transcript := #[], journal := #[] }

omit [Candidate S] in
theorem Machine.fresh_renewed (m : Machine W (LocalSearch W S) S) (seed : Int)
    (recordings : Recordings) : (m.renewed seed recordings).Fresh :=
  ⟨rfl, rfl, rfl, rfl, rfl⟩

/-! ## What was told since -/

/-- The observer is told that the search started. -/
def Entry.StartsFor (o : ObserverId) (e : Entry S) : Prop :=
  ∃ place s seen, e = .notified place o (.started s) seen

/-- The observer was told that the search started. -/
def ToldStart (o : ObserverId) (l : List (Entry S)) : Prop := ∃ e ∈ l, e.StartsFor o

/-- What observers have recorded is the same, but for those that are `stale`, that is, still have an
    old recording, and were not told of a start since. -/
def Recordings.SameSince (stale : ObserverId → Prop) (l : List (Entry S))
    (recordings recordings' : Recordings) : Prop :=
  ∀ o, (stale o → ToldStart o l) → recordings'.of o = recordings.of o

/-- What is seen is the same, but for old recordings, as `Recordings.SameSince` says. -/
def Sight.SameSince (stale : ObserverId → Prop) (l : List (Entry S)) (seen seen' : Sight S) :
    Prop :=
  seen'.toView = seen.toView ∧ seen.recordings.SameSince stale l seen'.recordings

section

omit [Candidate S]

variable {o : ObserverId} {l l' : List (Entry S)}

/-- Only news of a start count. -/
theorem ToldStart.of_append (h : ToldStart o (l ++ l')) (hl' : ∀ e ∈ l', ¬ e.StartsFor o) :
    ToldStart o l := by
  obtain ⟨e, he, hstarts⟩ := h
  rcases List.mem_append.1 he with he | he
  · exact ⟨e, he, hstarts⟩
  · exact absurd hstarts (hl' e he)

/-- Whoever was told of a start was told before, unless these are the news and it is told them. -/
theorem ToldStart.of_notified {o' : ObserverId} {place : Nat} {news : News S} {seen : Sight S}
    (h : ToldStart o (l ++ [.notified place o' news seen]))
    (hother : (∀ s, news ≠ .started s) ∨ o ≠ o') : ToldStart o l := by
  refine h.of_append fun e he => ?_
  rw [List.mem_singleton.1 he]
  rintro ⟨_, s, _, heq⟩
  simp only [Entry.notified.injEq] at heq
  rcases hother with hne | hne
  · exact hne s heq.2.2.1
  · exact hne heq.2.1.symm

theorem Entry.not_startsFor_of_sight? {e : Entry S} (h : e.sight? = none) : ¬ e.StartsFor o := by
  rintro ⟨place, s, seen, rfl⟩
  cases h

end

/-! ## Two searches since a restart -/

/-- Two searches whose solvers are `like` each other, and whose histories since they stood at `past`
    and `past'` differ in nothing but old recordings. -/
structure Renewal (like : Solver (LocalSearch W S) → Solver (LocalSearch W S) → Prop)
    (stale : ObserverId → Prop) (past past' : List (Entry S))
    (m n : Machine W (LocalSearch W S) S) : Prop where
  solver : like m.solver n.solver
  world : n.world = m.world
  generators : n.generators = m.generators
  level : n.level = m.level
  since : ∃ l l', m.past = past ++ l ∧ n.past = past' ++ l' ∧
    Retells (Sight.SameSince stale) (fun _ => false) l l' ∧
    m.recordings.SameSince stale l n.recordings

/-- The searches are made of the same parts. -/
def Solver.SameParts (s s' : Solver (LocalSearch W S)) : Prop :=
  s' = { s with
    seed := s'.seed
    steps := s'.steps
    phase := s'.phase
    inner := { s.inner with current := s'.inner.current, stagnation := s'.inner.stagnation } }

/-- The searches are also at the same solution. -/
def Solver.SamePosition (s s' : Solver (LocalSearch W S)) : Prop :=
  s' = { s with seed := s'.seed, steps := s'.steps, phase := s'.phase }

/-- The searches differ in nothing but their seeds. -/
def Solver.SameButSeed (s s' : Solver (LocalSearch W S)) : Prop := s' = { s with seed := s'.seed }

namespace Renewal

variable {like like' : Solver (LocalSearch W S) → Solver (LocalSearch W S) → Prop}
  {stale : ObserverId → Prop} {past past' : List (Entry S)} {m n : Machine W (LocalSearch W S) S}

omit [Candidate S] in
/-- Both histories go on with the same, and nobody looks. -/
theorem unseen (h : Renewal like stale past past' m n) {m' n' : Machine W (LocalSearch W S) S}
    (hsolver : like' m'.solver n'.solver) (hworld : n'.world = m'.world)
    (hgenerators : n'.generators = m'.generators) (hlevel : n'.level = m'.level)
    (hrecordings : m'.recordings = m.recordings) (hrecordings' : n'.recordings = n.recordings)
    {work : List (Entry S)} (hwork : ∀ e ∈ work, e.sight? = none) (hpast : m'.past = m.past ++ work)
    (hpast' : n'.past = n.past ++ work) : Renewal like' stale past past' m' n' := by
  obtain ⟨l, l', hl, hl', hretells, hsame⟩ := h.since
  refine ⟨hsolver, hworld, hgenerators, hlevel, l ++ work, l' ++ work, ?_, ?_,
    hretells.append hwork, fun o ho => ?_⟩
  · rw [hpast, hl, List.append_assoc]
  · rw [hpast', hl', List.append_assoc]
  · rw [hrecordings, hrecordings']
    exact hsame o fun hstale => (ho hstale).of_append
      fun e he => Entry.not_startsFor_of_sight? (hwork e he)

omit [Candidate S] in
/-- The same solver finds the same, as long as it has the same parts. -/
theorem reporting (hlike : ∀ s s' : Solver (LocalSearch W S), like s s' → s.SameParts s') :
    LocalSearch.Reporting (Renewal like stale past past') where
  peers m n h := by
    have hparts := hlike _ _ h.solver
    refine ⟨h.world, h.generators, ?_, ?_, ?_⟩ <;> rw [hparts]
  worked m n world generators work hwork h :=
    h.unseen h.solver rfl rfl h.level rfl rfl
      (fun e he => Entry.sight?_of_isWork (hwork e he)) (m.past_worked _ _ _) (n.past_worked _ _ _)
  level m n h := h.level
  journaled m n journal journal' h :=
    ⟨h.solver, h.world, h.generators, h.level, h.since⟩

omit [Candidate S] in
/-- Searches of the same parts that go to the same solution are at the same position, by
    `Machine.chosen`. -/
theorem chosen (h : Renewal Solver.SameParts stale past past' m n) (initial : S) :
    Renewal Solver.SamePosition stale past past' (m.chosen initial) (n.chosen initial) := by
  refine h.unseen ?_ h.world h.generators h.level rfl rfl (by simp [Entry.sight?])
    (m.past_chosen initial) (n.past_chosen initial)
  unfold Solver.SamePosition
  simp only [Machine.chosen]
  rw [h.solver]

omit [Candidate S] in
/-- Searches at the same position that are `opened` differ in nothing but their seeds. -/
theorem opened (h : Renewal Solver.SamePosition stale past past' m n) :
    Renewal Solver.SameButSeed stale past past' m.opened n.opened := by
  refine h.unseen ?_ h.world h.generators h.level rfl rfl (by simp) (List.append_nil _).symm
    (List.append_nil _).symm
  unfold Solver.SameButSeed
  simp only [Machine.opened]
  rw [h.solver]

omit [Candidate S] in
theorem weaken (h : Renewal like stale past past' m n)
    (hlike : ∀ s s' : Solver (LocalSearch W S), like s s' → like' s s') :
    Renewal like' stale past past' m n :=
  ⟨hlike _ _ h.solver, h.world, h.generators, h.level, h.since⟩

/-- Searches that differ in nothing but their seeds go on alike. -/
theorem congruent (stale : ObserverId → Prop) (past past' : List (Entry S)) :
    LocalSearch.Congruent (Renewal (W := W) Solver.SameButSeed stale past past') where
  toReporting := reporting fun s s' h => by
    unfold Solver.SameParts
    rw [h]
  view m n h := by
    rw [h.solver]
    rfl
  chosen m n initial h := by
    refine h.unseen ?_ h.world h.generators h.level rfl rfl (by simp [Entry.sight?])
      (m.past_chosen initial) (n.past_chosen initial)
    unfold Solver.SameButSeed
    simp only [Machine.chosen]
    rw [h.solver]
  judged m n neighbor accepted h := by
    refine h.unseen ?_ h.world h.generators h.level rfl rfl (by simp [Entry.sight?])
      (m.past_judged neighbor accepted) (n.past_judged neighbor accepted)
    unfold Solver.SameButSeed
    simp only [Machine.judged]
    rw [h.solver]
  opened m n h := (h.weaken fun s s' h => by unfold Solver.SamePosition; rw [h]).opened
  counted m n h := by
    refine h.unseen ?_ h.world h.generators h.level rfl rfl (by simp) (List.append_nil _).symm
      (List.append_nil _).symm
    unfold Solver.SameButSeed
    simp only [Machine.counted]
    rw [h.solver]

/-- Somebody looks at both searches, for the same reason. -/
theorem glimpsed (h : Renewal Solver.SameButSeed stale past past' m n)
    {entry entry' : Sight S → Entry S} (place : Nat)
    (hentry : ∀ seen, (entry seen).sight? = some seen)
    (hsame : ∀ seen seen', entry' seen' = (entry seen).reseen place seen')
    (hnot : ∀ o, stale o → ∀ seen, ¬ (entry seen).StartsFor o) :
    Renewal Solver.SameButSeed stale past past' (m.glimpsed entry) (n.glimpsed entry') := by
  obtain ⟨l, l', hl, hl', hretells, hrecordings⟩ := h.since
  have hview := (congruent stale past past').view m n h
  refine ⟨h.solver, h.world, h.generators, h.level,
    l ++ [entry (LocalSearch.method.sight m)],
    l' ++ [(entry (LocalSearch.method.sight m)).reseen place (LocalSearch.method.sight n)],
    ?_, ?_, hretells.seen (hentry _) (fun _ _ => rfl) ⟨hview, hrecordings⟩, fun o ho => ?_⟩
  · rw [Machine.past_glimpsed, hl, List.append_assoc]
  · rw [Machine.past_glimpsed, hl', List.append_assoc, hsame]
  · exact hrecordings o fun hstale => (ho hstale).of_append fun e he =>
      (List.mem_singleton.1 he).symm ▸ hnot o hstale _

omit [Candidate S] in
theorem observed (h : Renewal Solver.SameButSeed stale past past' m n) (o : ObserverId) :
    Renewal Solver.SameButSeed stale past past' (m.observed o) (n.observed o) := by
  refine h.unseen ?_ h.world h.generators h.level rfl rfl (by simp) (List.append_nil _).symm
    (List.append_nil _).symm
  unfold Solver.SameButSeed
  simp only [Machine.observed]
  rw [h.solver]

omit [Candidate S] in
theorem overwritten (h : Renewal Solver.SameButSeed stale past past' m n) (k : Int) :
    Renewal Solver.SameButSeed stale past past' (m.overwritten k) (n.overwritten k) := by
  refine h.unseen ?_ h.world h.generators h.level rfl rfl (by simp [Entry.sight?])
    (m.past_overwritten k) (n.past_overwritten k)
  unfold Solver.SameButSeed
  simp only [Machine.overwritten]
  rw [h.solver]

/-- An observer that records is told the same in both searches. If these are the news of a start,
    its old recording no longer matters. -/
theorem recorded (h : Renewal Solver.SameButSeed stale past past' m n) (o : ObserverId)
    (news : News S) (place place' : Nat) :
    ((Action.record LocalSearch.method o news).runOn
          (n.glimpsed (.notified place' o news))).1
        = ((Action.record LocalSearch.method o news).runOn
          (m.glimpsed (.notified place o news))).1 ∧
      Renewal Solver.SameButSeed stale past past'
        ((Action.record LocalSearch.method o news).runOn (m.glimpsed (.notified place o news))).2
        ((Action.record LocalSearch.method o news).runOn
          (n.glimpsed (.notified place' o news))).2 := by
  obtain ⟨l, l', hl, hl', hretells, hrecordings⟩ := h.since
  have hview := (congruent stale past past').view m n h
  have hcurrent : n.solver.inner.current = m.solver.inner.current := congrArg View.current hview
  obtain ⟨hresult, hprobes⟩ := Recording.run_record_congr m.solver.inner.current news
    (m.recordings.of o) (n.recordings.of o)
  have hnotices : Retells (Sight.SameSince stale) (fun _ => false)
      (l ++ [.notified place o news (LocalSearch.method.sight m)])
      (l' ++ [.notified place' o news (LocalSearch.method.sight n)]) :=
    hretells.seen rfl (fun _ _ => rfl) ⟨hview, hrecordings⟩
  have hwork : ∀ e ∈ ((Recording.record m.solver.inner.current news).run
      ⟨m.recordings.of o, #[]⟩).2.probes.toList.map (Entry.probed (S := S)), e.sight? = none :=
    fun e he => Entry.sight?_of_isWork (Entry.isWork_of_mem_map_probed he)
  refine ⟨?_, h.solver, h.world, h.generators, h.level, _, _, ?_, ?_, hnotices.append hwork,
    fun p hp => ?_⟩
  · rw [Action.result_record, Action.result_record]
    simp only [Machine.glimpsed, hcurrent, hresult]
  · rw [Action.past_record, Machine.past_glimpsed, hl, List.append_assoc, List.append_assoc,
      List.append_assoc]
    rfl
  · rw [Action.past_record, Machine.past_glimpsed, hl']
    simp only [Machine.glimpsed, hcurrent, hprobes, List.append_assoc]
  · -- Whoever was told of a start by now is the observer, or was told before.
    have hbefore : (∀ s, news ≠ .started s) ∨ p ≠ o → stale p → ToldStart p l :=
      fun hother hstale => ((hp hstale).of_append fun e he =>
        Entry.not_startsFor_of_sight? (hwork e he)).of_notified hother
    rw [recordings_of_record, recordings_of_record]
    simp only [Machine.glimpsed, hcurrent]
    by_cases hsame : o = p
    · subst hsame
      rw [if_pos rfl, if_pos rfl]
      cases news with
      | started solution => rw [Recording.run_record_started]
      | stepped neighbor accepted =>
        rw [hrecordings o (hbefore (.inl fun s => by simp))]
    · rw [if_neg hsame, if_neg hsame]
      exact hrecordings p (hbefore (.inr (Ne.symm hsame)))

/-- An observer that does not record is told the same in both searches. -/
theorem told (h : Renewal Solver.SameButSeed stale past past' m n) {o : ObserverId}
    (ho : ¬ stale o) (news : News S) (place place' : Nat) :
    Renewal Solver.SameButSeed stale past past' (m.glimpsed (.notified place o news))
      (n.glimpsed (.notified place' o news)) := by
  refine h.glimpsed place' (fun _ => rfl) (fun _ _ => rfl) ?_
  rintro p hp seen ⟨_, _, _, heq⟩
  simp only [Entry.notified.injEq] at heq
  exact ho (heq.2.1 ▸ hp)

/-- A restart that commits makes both searches go on alike. -/
theorem enter (stale : ObserverId → Prop) (past past' : List (Entry S)) {pace : Pace S} :
    Action.InStep pace (fun _ _ => True) (Renewal Solver.SameParts stale past past')
      (fun _ => (Solver.enter LocalSearch.method : Action W (LocalSearch W S) S (News S)))
      (Solver.enter LocalSearch.method) fun _ => Renewal Solver.SameButSeed stale past past' := by
  have hparts : LocalSearch.Reporting (Renewal (W := W) Solver.SameParts stale past past') :=
    reporting fun _ _ h => h
  have hposition : LocalSearch.Reporting (Renewal (W := W) Solver.SamePosition stale past past') :=
    reporting fun s s' h => by
      unfold Solver.SameParts
      rw [h]
  rw [LocalSearch.enter_eq]
  refine (hparts.proposing.imp (fun _ _ h => h) (fun _ _ _ h => h) fun _ _ _ => trivial).bind
    fun initial => ?_
  exact (hposition.opening initial (fun m n h => h.chosen initial) fun m n h => h.opened).imp
    (fun _ _ h => h) (fun _ _ _ h => h) fun _ _ _ => trivial

end Renewal

/-- Since the history stood at `past`, no program read what an observer with an old recording has
    recorded before the observer was told of a start. Looks at the solver alone do not count. -/
def ReadsLate (stale : ObserverId → Prop) (past l : List (Entry S)) : Prop :=
  ∀ before o seen after, l = past ++ before ++ .read o seen :: after → stale o → ToldStart o before

/-- Two searches have the same observers, and programs read late. -/
def Pace.sinceRestart (stale : ObserverId → Prop) (past : List (Entry S)) : Pace S where
  guard := ReadsLate stale past
  guard_of_append l l' h := fun before o seen after hl =>
    h before o seen (after ++ l') (by rw [hl]; simp)
  extra _ := false

/-- The two searches go on alike, whatever befalls them, in the sense of `Solver.Paired`. -/
theorem Renewal.paired {cast : Cast W S} {stale : ObserverId → Prop}
    (hstale : ∀ o, stale o → cast.observer o = .recorder) (past past' : List (Entry S)) :
    Solver.Paired (Pace.sinceRestart stale past) cast cast
      (Renewal Solver.SameButSeed stale past past') (Renewal Solver.SameButSeed stale past past')
      fun _ _ => True where
  casts := .refl cast
  rest _ _ h := h
  world m n h := h.world.symm
  phase m n h := (congrArg View.phase ((congruent stale past past').view m n h)).symm
  observers m n h := by
    rw [h.solver]
    simp [Pace.common, Pace.sinceRestart]
  view m n h := (congruent stale past past').view m n h
  recording m n o _ h hlate := by
    obtain ⟨l, l', hl, -, -, hsame⟩ := h.since
    refine hsame o (hlate l o (LocalSearch.method.sight m) [] ?_)
    rw [Machine.past_glimpsed, hl]
  looked m n h := h.glimpsed 0 (fun _ => rfl) (fun _ _ => rfl) (by rintro _ _ _ ⟨_, _, _, ⟨⟩⟩)
  read m n o _ h := h.glimpsed 0 (fun _ => rfl) (fun _ _ => rfl) (by rintro _ _ _ ⟨_, _, _, ⟨⟩⟩)
  resumed m n h := h.glimpsed 0 (fun _ => rfl) (fun _ _ => rfl) (by rintro _ _ _ ⟨_, _, _, ⟨⟩⟩)
  stopAsked m n h := h.glimpsed 0 (fun _ => rfl) (fun _ _ => rfl) (by rintro _ _ _ ⟨_, _, _, ⟨⟩⟩)
  hook h := (congruent stale past past').hook h
  enter := (congruent stale past past').enter.imp (fun _ _ h => h) (fun _ _ _ h => ⟨h, trivial⟩)
    fun _ _ h => h
  stride := (congruent stale past past').stride.imp (fun _ _ h => h) (fun _ _ _ h => ⟨h, trivial⟩)
    fun _ _ h => h
  pending _ _ _ _ _ := trivial
  silent m n news place place' o hsilent _ h := by
    refine h.told (fun ho => ?_) news place place'
    rw [hstale o ho] at hsilent
    cases hsilent
  recorder m n news place place' o _ _ _ h := by
    rintro _ _ rfl rfl -
    exact h.recorded o news place place'
  custom m n news place place' o react hcustom _ h := by
    refine h.told (fun ho => ?_) news place place'
    rw [hstale o ho] at hcustom
    cases hcustom
  extra m n news place o ho := nomatch ho
  added m n o ho := nomatch ho
  logged m n text text' h :=
    (congruent stale past past').logged Level.info .lifecycle text text' [] [] h
  observed m n o _ h := h.observed o
  overwritten m n k h := h.overwritten k

/-! ## Restarts -/

omit [Candidate S] in
/-- Where no program reads, none reads early. -/
theorem ReadsLate.of_all {stale : ObserverId → Prop} {past l : List (Entry S)}
    (h : l.all (fun e => match e with
      | .read _ _ => false
      | _ => true) = true) : ReadsLate stale past l := by
  intro before o seen after hl
  have hread := List.all_eq_true.1 h (.read o seen) (by rw [hl]; simp)
  cases hread

end HillClimb
