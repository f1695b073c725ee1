import HillClimb.Proofs.Commits

set_option autoImplicit false

/-! # What a failed start or step leaves behind

A start or a step that fails before an observer is told of it should leave the search as it was. It
does so if it fails before its commit. Past the commit only one thing can fail: a record for
debugging shows the cost of the solution that the search has gone to, and that cost may not be
known. Then the commit stays, but the phase and the number of steps do not follow it.

`Foiled` lists the ways to fail, and `foiled_of_serve` shows that there are no others: a round that
fails has told somebody (`notice_of_round`). When the view is kept is
`failed_call_keeps_view_iff`. -/

namespace HillClimb

variable {W S : Type}

/-- The entry is no commit, or one that writes what is already there: it leaves the current solution
    and the count of rejections as they are. -/
def Entry.Leaves (s : LocalSearch W S) : Entry S → Prop
  | .started initial => s.current = some initial ∧ s.stagnation = 0
  | .decided neighbor accepted =>
    accepted = true ∧ s.current = some neighbor ∧ s.stagnation = 0
  | _ => True

theorem Entry.leaves_of_not_isCommit {s : LocalSearch W S} {e : Entry S}
    (h : e.isCommit = false) : e.Leaves s := by
  cases e <;> simp_all [Entry.isCommit, Entry.Leaves]

theorem Entry.leaves_of_isWork {s : LocalSearch W S} {e : Entry S} (h : e.isWork) : e.Leaves s :=
  e.leaves_of_not_isCommit (Entry.isCommit_of_isWork h)

variable [Candidate S]

/-- What can come of a start or a step that fails before an observer is told of it. In two of the
    cases a cost was `Unreported` past the commit. -/
inductive Foiled (m : Machine W (LocalSearch W S) S) (cause : Failure)
    (m' : Machine W (LocalSearch W S) S) : Prop
  | early (h : m.Aside m')
  | chosen {initial : S} {m₁ : Machine W (LocalSearch W S) S} (h : m.Aside m₁)
      (h' : (m₁.chosen initial).Aside m') (hcost : Unreported m.level (some initial) cause m'.past)
  | judged {neighbor : S} {accepted : Bool} {m₁ : Machine W (LocalSearch W S) S} (h : m.Aside m₁)
      (h' : (m₁.judged neighbor accepted).Aside m')
      (hcost : Unreported m.level m'.solver.inner.current cause m'.past)

/-! ## A round that fails has told somebody -/

section

variable {m m' : Machine W (LocalSearch W S) S} {cause : Failure}

/-- A round that fails begins with a notice: `Solver.round` asks nobody before it tells the first
    observer. -/
theorem notice_of_round {cast : Cast W S} {fuel bound : Nat} {news : News S}
    (h : (Solver.round LocalSearch.method cast (Solver.serve LocalSearch.method cast fuel) news
      bound 0).runOn m = (.error (.failed cause), m')) :
    ∃ o seen, m.past ++ [.notified 0 o news seen] <+: m'.past := by
  cases bound with
  | zero =>
    rw [Solver.round, Action.run_throw] at h
    cases h
  | succ bound =>
    simp only [Solver.round, Action.run_bind, Action.run_get] at h
    cases ho : m.solver.observers[0]? with
    | none =>
      rw [ho] at h
      simp [Action.run_pure] at h
    | some o =>
      refine ⟨o, LocalSearch.method.sight m, ?_⟩
      -- From the notice on the history only grows.
      have hgrows := LocalSearch.lasting_past (W := W)
        (m.past ++ [.notified 0 o news (LocalSearch.method.sight m)])
      have hserve := (hgrows.upheld cast).serve fuel
      have hkeeps := (Solver.keeps_react cast hgrows.harmless hserve
        (hgrows.keeps_record o news)).bind fun _ =>
          (hgrows.upheld cast).round_succ hserve news bound 0
      have hnow : m.past ++ [.notified 0 o news (LocalSearch.method.sight m)]
          <+: (m.glimpsed (.notified 0 o news)).past :=
        (Machine.past_glimpsed m (.notified 0 o news)).symm ▸ List.prefix_refl _
      have hleaves := hkeeps.leaves (fun _ hP => hP) hnow
      rw [ho] at h
      simp only [Solver.notify, Action.run_bind, Action.run_noteSeen] at h
      rw [Action.run_bind] at hleaves
      rw [show m' = _ from (congrArg Prod.snd h).symm]
      exact hleaves

omit [Candidate S] in
/-- Told news are among the new entries. -/
theorem notice_mem {m₁ : Machine W (LocalSearch W S) S} {e : Entry S} {new : List (Entry S)}
    (hunseen : m.Unseen m₁) (hgrows : m₁.past ++ [e] <+: m'.past)
    (hpast : m'.past = m.past ++ new) : e ∈ new := by
  obtain ⟨l, -, hl⟩ := hunseen.past
  obtain ⟨rest, hrest⟩ := hgrows
  rw [hl, hpast, List.append_assoc, List.append_assoc] at hrest
  rw [← List.append_cancel_left hrest]
  simp

/-- A call that fails before anyone is told of it was `Foiled`. -/
theorem foiled_of_serve {cast : Cast W S} {fuel : Nat} {c : Call} (hc : c = .start ∨ c = .step)
    {new : List (Entry S)}
    (hrun : (Solver.serve LocalSearch.method cast fuel c).runOn m = (.error (.failed cause), m'))
    (hpast : m'.past = m.past ++ new) (hnotice : ∀ e ∈ new, e.isNotice = false) :
    Foiled m cause m' := by
  cases fuel with
  | zero =>
    rw [Solver.serve, Action.run_throw] at hrun
    cases hrun
  | succ fuel =>
    rcases hc with rfl | rfl
    · simp only [Solver.serve, Solver.obey, Solver.begin, Action.run_bind] at hrun
      -- Once the news are there, an observer is told before anything else can fail.
      have hentered := LocalSearch.entered_enter m
      rcases hresult : (Solver.enter LocalSearch.method).runOn m with ⟨result, m₁⟩
      rw [hresult] at hentered hrun
      cases hentered with
      | failed ha =>
        cases hrun
        exact .early ha
      | unreported ha ha' hcost =>
        cases hrun
        exact .chosen ha ha' hcost
      | entered ha ha' =>
        obtain ⟨o, seen, hgrows⟩ := notice_of_round hrun
        have hunseen := (Entered.entered ha ha').unseen
        have := hnotice _ (notice_mem hunseen hgrows hpast)
        simp [Entry.isNotice] at this
    · simp only [Solver.serve, Solver.obey, Solver.advance, Action.run_bind] at hrun
      have hstrode := LocalSearch.strode_stride m
      rcases hresult : (Solver.stride LocalSearch.method).runOn m with ⟨result, m₁⟩
      rw [hresult] at hstrode hrun
      cases hstrode with
      | failed ha =>
        cases hrun
        exact .early ha
      | unreported hready hjudges ha ha' hcost =>
        cases hrun
        exact .judged ha ha' hcost
      | strode hready hjudges ha ha' =>
        obtain ⟨o, seen, hgrows⟩ := notice_of_round hrun
        have hunseen := (Strode.strode hready hjudges ha ha').unseen
        have := hnotice _ (notice_mem hunseen hgrows hpast)
        simp [Entry.isNotice] at this

/-! ## What is left -/

omit [Candidate S] in
/-- Around a commit there is only work. -/
theorem new_of_commit {m₁ m₂ : Machine W (LocalSearch W S) S} {e : Entry S}
    {new : List (Entry S)} (h : m.Aside m₁) (he : m₂.past = m₁.past ++ [e]) (h' : m₂.Aside m')
    (hpast : m'.past = m.past ++ new) :
    ∃ work work', (∀ e ∈ work, e.isWork) ∧ (∀ e ∈ work', e.isWork) ∧
      new = work ++ e :: work' := by
  obtain ⟨work, hwork, hl⟩ := h.past
  obtain ⟨work', hwork', hl'⟩ := h'.past
  refine ⟨work, work', hwork, hwork', ?_⟩
  rw [hpast, he, hl, List.append_assoc, List.append_assoc] at hl'
  rw [List.append_cancel_left hl', List.singleton_append]

omit [Candidate S] in
theorem leaves_iff_of_work {s : LocalSearch W S} {e : Entry S} {work work' : List (Entry S)}
    (hwork : ∀ e ∈ work, e.isWork) (hwork' : ∀ e ∈ work', e.isWork) :
    (∀ e' ∈ work ++ e :: work', e'.Leaves s) ↔ e.Leaves s := by
  refine ⟨fun h => h e (by simp), fun h e' he' => ?_⟩
  rcases List.mem_append.1 he' with he' | he'
  · exact Entry.leaves_of_isWork (hwork e' he')
  rcases List.mem_cons.1 he' with rfl | he'
  · exact h
  · exact Entry.leaves_of_isWork (hwork' e' he')

namespace Foiled

/-- The phase and the number of steps are as they were. -/
theorem lifecycle (h : Foiled m cause m') :
    m'.solver.phase = m.solver.phase ∧ m'.solver.steps = m.solver.steps := by
  cases h with
  | early ha => rw [ha.solver]; exact ⟨rfl, rfl⟩
  | chosen ha ha' hcost =>
    rw [ha'.solver, ← ha.solver]
    exact ⟨rfl, rfl⟩
  | judged ha ha' hcost =>
    rw [ha'.solver, ← ha.solver]
    exact ⟨rfl, rfl⟩

/-- The search is seen as before if and only if no commit wrote anything new: every new entry
    `Leaves` the search as it was. -/
theorem view_iff (h : Foiled m cause m') {new : List (Entry S)}
    (hpast : m'.past = m.past ++ new) :
    LocalSearch.method.view m'.solver = LocalSearch.method.view m.solver ↔
      ∀ e ∈ new, e.Leaves m.solver.inner := by
  cases h with
  | early ha =>
    obtain ⟨work, hwork, hl⟩ := ha.past
    rw [hpast] at hl
    rw [List.append_cancel_left hl, ha.solver]
    exact iff_of_true rfl fun e he => Entry.leaves_of_isWork (hwork e he)
  | chosen ha ha' hcost =>
    obtain ⟨work, work', hwork, hwork', rfl⟩ :=
      new_of_commit ha (Machine.past_chosen _ _) ha' hpast
    rw [leaves_iff_of_work hwork hwork', ha'.solver, ← ha.solver, Machine.view_chosen]
    simp [Method.view, LocalSearch.method, Entry.Leaves, eq_comm]
  | @judged neighbor accepted m₁ ha ha' hcost =>
    obtain ⟨work, work', hwork, hwork', rfl⟩ :=
      new_of_commit ha (Machine.past_judged _ _ _) ha' hpast
    rw [leaves_iff_of_work hwork hwork', ha'.solver, ← ha.solver, Machine.view_judged]
    cases accepted with
    | true => simp [Method.view, LocalSearch.method, Entry.Leaves, eq_comm]
    | false =>
      -- A rejection is always counted.
      have hcounted : m₁.solver.inner.stagnation + 1 ≠ m₁.solver.inner.stagnation := by omega
      simp [Method.view, LocalSearch.method, Entry.Leaves, hcounted]

/-- Past the commit, the failure is that of a cost shown in a record for debugging. -/
theorem cost (h : Foiled m cause m') {new : List (Entry S)}
    (hpast : m'.past = m.past ++ new) {e : Entry S} (he : e ∈ new) (hcommit : e.isCommit) :
    m.level ≤ Level.debug ∧
      ∀ s, m'.solver.inner.current = some s → Candidate.costs s = .error cause := by
  cases h with
  | early ha =>
    obtain ⟨work, hwork, hl⟩ := ha.past
    rw [hpast] at hl
    rw [List.append_cancel_left hl] at he
    rw [Entry.isCommit_of_isWork (hwork e he)] at hcommit
    cases hcommit
  | chosen ha ha' hcost =>
    refine ⟨hcost.level, fun s hs => ?_⟩
    rw [ha'.solver] at hs
    exact hcost.cost s hs
  | judged ha ha' hcost => exact ⟨hcost.level, hcost.cost⟩

end Foiled

end

/-- A start or a step that fails before any observer is told of it is seen to have changed nothing
    if and only if each of its commits wrote what was already there (`Entry.Leaves`). It has a
    commit only if the cost that a record for debugging shows could not be known, so nothing is
    changed if no such records are written. The phase and the number of steps stay in any case. -/
theorem failed_call_keeps_view_iff (cast : Cast W S) (fuel : Nat) {c : Call}
    (hc : c = .start ∨ c = .step) {m m' : Machine W (LocalSearch W S) S} {cause : Failure}
    {new : List (Entry S)}
    (hrun : (Solver.serve LocalSearch.method cast fuel c).runOn m = (.error (.failed cause), m'))
    (hpast : m'.past = m.past ++ new) (hnotice : ∀ e ∈ new, e.isNotice = false) :
    (LocalSearch.method.view m'.solver = LocalSearch.method.view m.solver ↔
        ∀ e ∈ new, e.Leaves m.solver.inner) ∧
      ((∃ e ∈ new, e.isCommit) → m.level ≤ Level.debug ∧
        ∀ s, m'.solver.inner.current = some s → Candidate.costs s = .error cause) ∧
      (Level.debug < m.level →
        LocalSearch.method.view m'.solver = LocalSearch.method.view m.solver) ∧
      m'.solver.phase = m.solver.phase ∧ m'.solver.steps = m.solver.steps := by
  have hfoiled := foiled_of_serve hc hrun hpast hnotice
  refine ⟨hfoiled.view_iff hpast, ?_, fun hlevel => ?_, hfoiled.lifecycle⟩
  · rintro ⟨e, he, hcommit⟩
    exact hfoiled.cost hpast he hcommit
  · -- Without such records nothing can fail past the commit.
    refine (hfoiled.view_iff hpast).2 fun e he => Entry.leaves_of_not_isCommit ?_
    rw [← Bool.not_eq_true]
    intro hcommit
    have hdebug := (hfoiled.cost hpast he hcommit).1
    omega

/-- A step for which there is no neighbour changes nothing. -/
theorem failed_call_keeps_view_exhausted :
    let started := ((Solver.serve LocalSearch.method Cast.eager 2 .start).runOn
      (Machine.listed [Bare.costing 5] #[] Level.debug)).2
    let result := (Solver.serve LocalSearch.method Cast.eager 2 .step).runOn started
    result.1 = .error (.failed .scriptExhausted) ∧
      LocalSearch.method.view result.2.solver = LocalSearch.method.view started.solver := by
  intro started result
  have hrun : (Solver.serve LocalSearch.method Cast.eager 2 .step).runOn started
      = (.error (.failed .scriptExhausted), result.2) := by with_unfolding_all rfl
  have hpast : result.2.past
      = started.past ++ [.stepCalled, .neighborAsked (some (Bare.costing 5))] := by
    with_unfolding_all rfl
  have hview := failed_call_keeps_view_iff Cast.eager 2 (.inr rfl) hrun hpast (by decide)
  exact ⟨congrArg Prod.fst hrun, hview.1.2 (by simp [Entry.Leaves])⟩

/-- With records for debugging, a first start that fails leaves its solution behind. -/
theorem failed_start_changes_view :
    let m := Machine.listed [Bare.failing] #[] Level.debug
    let result := (Solver.serve LocalSearch.method Cast.eager 2 .start).runOn m
    result.1 = .error (.failed (.raised (.other "RuntimeError") "boom")) ∧
      (∀ e ∈ result.2.past, e.isNotice = false) ∧
      LocalSearch.method.view result.2.solver ≠ LocalSearch.method.view m.solver := by
  refine ⟨by decide +kernel, by decide +kernel, fun hview => ?_⟩
  exact absurd (congrArg (fun seen => seen.current.isSome) hview) (by decide +kernel)

end HillClimb
