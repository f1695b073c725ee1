import HillClimb.Proofs.Endings
import HillClimb.Proofs.Protocol
import HillClimb.Proofs.SideBySide

set_option autoImplicit false

/-! # Rounds of news

After a turn the observers are told its news, one after another along a list that may grow while it
is gone through. A round is taken apart here into its *visits* (`Visit`, `Round`): where the list is
visited, on which machine, and what comes of it. Each place of the list is visited once and in order
(`Round.places`), up to the end of the list as it stands when the round ends (`Round.reaches_end`),
or up to the observer that fails (`Round.ends_failing`); all are told the same news, and as long as
the search has not moved on they see it as the turn left it.

The result is `round_tells_everyone`. -/

namespace HillClimb

variable {W S : Type} [Candidate S]

/-! ## What a turn announces -/

/-- The call of the turn. -/
def Turn.asks : Turn W S → Call
  | .start _ => .start
  | .step _ => .step

/-- The commits among what happened between two machines. -/
def Machine.Commits (m m' : Machine W (LocalSearch W S) S) (commits : List (Entry S)) : Prop :=
  ∃ l, m'.past = m.past ++ l ∧ l.filter Entry.isCommit = commits

/-- The news of a turn tell of its one commit, and of a search that is seen to have just made it. -/
inductive Turn.Announces : Turn W S → News S → Machine W (LocalSearch W S) S → Prop
  | start {m m₁ : Machine W (LocalSearch W S) S} {initial : S}
      (hcommit : m.Commits m₁ [.started initial])
      (hview : LocalSearch.method.view m₁.solver = ⟨.ready, 0, some initial, some 0⟩) :
      Announces (.start m) (.started (some initial)) m₁
  | step {m m₁ : Machine W (LocalSearch W S) S} {neighbor : S} {accepted : Bool}
      (hcommit : m.Commits m₁ [.decided neighbor accepted])
      (hview : LocalSearch.method.view m₁.solver
        = ⟨.ready, m.solver.steps + 1,
            if accepted then some neighbor else m.solver.inner.current,
            some (if accepted then 0 else m.solver.inner.stagnation + 1)⟩) :
      Announces (.step m) (.stepped neighbor accepted) m₁

omit [Candidate S] in
/-- Work around a commit commits nothing more. -/
theorem Machine.Aside.commits {m m₁ m₂ n : Machine W (LocalSearch W S) S} {e : Entry S}
    (h : m.Aside m₁) (hpast : m₂.past = m₁.past ++ [e]) (h' : m₂.Aside n) (he : e.isCommit) :
    m.Commits n [e] := by
  obtain ⟨work, hwork, hbefore⟩ := h.past
  obtain ⟨work', hwork', hafter⟩ := h'.past
  have hnone : ∀ l : List (Entry S), (∀ e ∈ l, e.isWork) → l.filter Entry.isCommit = [] := by
    intro l hl
    refine List.filter_eq_nil_iff.2 fun e he => ?_
    simp [Entry.isCommit_of_isWork (hl e he)]
  refine ⟨work ++ [e] ++ work', ?_, ?_⟩
  · rw [hafter, hpast, hbefore, List.append_assoc, List.append_assoc, List.append_assoc]
  · simp [List.filter_append, hnone work hwork, hnone work' hwork', he]

theorem Turn.announces {t : Turn W S} {news : News S} {m₁ : Machine W (LocalSearch W S) S}
    (h : t.outcome = (.ok news, m₁)) : t.Announces news m₁ := by
  cases t with
  | start m =>
    have hentered := LocalSearch.entered_enter m
    rw [outcome] at h
    rw [h] at hentered
    cases hentered with
    | @entered initial m₂ m₃ ha ha' =>
      refine .start (Machine.Aside.commits (n := m₃) ha (Machine.past_chosen _ _) ha' rfl) ?_
      show (⟨.ready, 0, m₃.solver.inner.current, some m₃.solver.inner.stagnation⟩ : View S) = _
      rw [ha'.solver]
      rfl
  | step m =>
    have hstrode := LocalSearch.strode_stride m
    rw [outcome] at h
    rw [h] at hstrode
    cases hstrode with
    | @strode neighbor accepted m₂ m₃ hready hjudges ha ha' =>
      refine .step (Machine.Aside.commits (n := m₃) ha (Machine.past_judged _ _ _) ha' rfl) ?_
      show (⟨m₃.solver.phase, m₃.solver.steps + 1, m₃.solver.inner.current,
        some m₃.solver.inner.stagnation⟩ : View S) = _
      rw [ha'.solver]
      cases accepted <;> simp [Machine.judged, ha.solver, hready]

/-! ## Visits -/

/-- An observer that is told: its place in the list, the machine on which it is told, and what comes
    of it. -/
structure Visit (W S : Type) where
  place : Nat
  observer : ObserverId
  before : Machine W (LocalSearch W S) S
  result : Except Failure Unit
  after : Machine W (LocalSearch W S) S

/-- At the visit the observer that stands at the place is told the news, by `Solver.notify`. -/
structure Visit.Tells (cast : Cast W S) (news : News S) (v : Visit W S) : Prop where
  listed : v.before.solver.observers[v.place]? = some v.observer
  ends : Action.Ends (fun fuel => Solver.notify LocalSearch.method cast
    (Solver.serve LocalSearch.method cast fuel) news v.place v.observer) v.before v.result v.after

/-- The visits of a round from a place of the list on. A visit begins where the one before it has
    ended; a visit that fails is the last, and so is one behind which the list ends. This is
    `Solver.round` without its fuel. -/
inductive Round (cast : Cast W S) (news : News S) : Nat → Machine W (LocalSearch W S) S →
    List (Visit W S) → Except Failure Unit → Machine W (LocalSearch W S) S → Prop
  | ended {place : Nat} {m : Machine W (LocalSearch W S) S}
      (hend : m.solver.observers[place]? = none) : Round cast news place m [] (.ok ()) m
  | failed {v : Visit W S} {cause : Failure} (htells : v.Tells cast news)
      (hresult : v.result = .error cause) :
      Round cast news v.place v.before [v] (.error cause) v.after
  | told {v : Visit W S} {visits : List (Visit W S)} {result : Except Failure Unit}
      {m' : Machine W (LocalSearch W S) S} (htells : v.Tells cast news)
      (hresult : v.result = .ok ())
      (hrest : Round cast news (v.place + 1) v.after visits result m') :
      Round cast news v.place v.before (v :: visits) result m'

variable {cast : Cast W S} {news : News S} {place : Nat} {m m' : Machine W (LocalSearch W S) S}
  {visits : List (Visit W S)} {result : Except Failure Unit}

/-- A round that ends is made of visits. -/
theorem exists_visits {bound fuel : Nat}
    (h : (Solver.round LocalSearch.method cast (Solver.serve LocalSearch.method cast bound) news
      fuel place).runOn m = (result.mapError .failed, m')) :
    ∃ visits, Round cast news place m visits result m' := by
  -- The places are counted down, while the bound for what is nested in the visits stays.
  induction fuel generalizing place m with
  | zero => exact absurd (congrArg Prod.fst h).symm (Action.mapError_failed_ne result)
  | succ fuel ih =>
    cases ho : m.solver.observers[place]? with
    | none =>
      rw [Solver.Paired.run_round_none ho] at h
      obtain ⟨hresult, rfl⟩ := Prod.mk.inj h
      obtain rfl : result = .ok () := Action.mapError_failed_inj hresult.symm
      exact ⟨[], .ended ho⟩
    | some o =>
      rw [Solver.Paired.run_round_some ho] at h
      rcases Action.bind_ended h with ⟨cause, rfl, hnotify⟩ | ⟨_, m₁, hnotify, hrest⟩
      · exact ⟨[⟨place, o, m, .error cause, m'⟩],
          .failed (v := ⟨place, o, m, .error cause, m'⟩) ⟨ho, bound, hnotify⟩ rfl⟩
      · obtain ⟨visits, hround⟩ := ih hrest
        exact ⟨⟨place, o, m, .ok (), m₁⟩ :: visits,
          .told (v := ⟨place, o, m, .ok (), m₁⟩) ⟨ho, bound, hnotify⟩ rfl hround⟩

theorem Action.Grows.react {x : Call → Action W (LocalSearch W S) S Unit} (hx : ∀ c, Grows (x c))
    (cast : Cast W S) (news : News S) (o : ObserverId) :
    Grows (Solver.react LocalSearch.method cast x news o) := by
  unfold Solver.react
  split
  · exact .pure _
  · exact .record _ _ _
  · exact .play hx _

namespace Visit

variable {v : Visit W S}

theorem Tells.grows (h : v.Tells cast news) : v.before.Grows v.after := by
  obtain ⟨fuel, hrun⟩ := h.ends
  have hgrows := Action.Grows.notify (Action.Grows.serve cast fuel) cast news v.place v.observer
    v.before
  rw [hrun] at hgrows
  exact hgrows

/-- The first thing that happens at a visit is that the observer is told. -/
theorem Tells.told (h : v.Tells cast news) :
    v.before.past ++ [.notified v.place v.observer news (LocalSearch.method.sight v.before)]
      <+: v.after.past := by
  obtain ⟨fuel, hrun⟩ := h.ends
  have hgrows := Action.Grows.bind_left
    (fun _ => Action.Grows.react (Action.Grows.serve cast fuel) cast news v.observer) v.before
    (x := LocalSearch.method.noteSeen (.notified v.place v.observer news))
  rw [← Solver.notify, hrun, Action.run_noteSeen] at hgrows
  have hpast : (v.before.glimpsed (.notified v.place v.observer news)).past <+: v.after.past :=
    hgrows.past
  rwa [Machine.past_glimpsed] at hpast

end Visit

omit [Candidate S] in
/-- Who is listed stays listed, in the same place. -/
theorem Machine.Grows.listed (h : m.Grows m') {o : ObserverId}
    (ho : m.solver.observers[place]? = some o) : m'.solver.observers[place]? = some o := by
  obtain ⟨rest, hrest⟩ := h.observers
  rw [← Array.getElem?_toList] at ho ⊢
  obtain ⟨hin, -⟩ := List.getElem?_eq_some_iff.1 ho
  rw [← hrest, List.getElem?_append_left hin, ho]

namespace Round

theorem grows (h : Round cast news place m visits result m') : m.Grows m' := by
  induction h with
  | ended => exact .refl _
  | failed htells => exact htells.grows
  | told htells _ _ ih => exact htells.grows.trans ih

/-- The list is gone through place by place. -/
theorem places (h : Round cast news place m visits result m') :
    visits.map Visit.place = List.range' place visits.length := by
  induction h with
  | ended => rfl
  | failed => rfl
  | told _ _ _ ih => simp [ih, List.range'_succ]

/-- Who was told at a place still stands there when the round ends. -/
theorem listed (h : Round cast news place m visits result m') :
    ∀ v ∈ visits, m'.solver.observers[v.place]? = some v.observer := by
  induction h with
  | ended => simp
  | failed htells =>
    intro u hu
    rw [List.mem_singleton.1 hu]
    exact htells.grows.listed htells.listed
  | told htells _ hrest ih =>
    refine List.forall_mem_cons.2 ⟨?_, ih⟩
    exact (htells.grows.trans hrest.grows).listed htells.listed

/-- The observers that were told are those that stand at these places when the round ends. -/
theorem observers (h : Round cast news 0 m visits result m') :
    visits.map Visit.observer = m'.solver.observers.toList.take visits.length := by
  refine List.ext_getElem? fun n => ?_
  by_cases hn : n < visits.length
  · -- The visit of this place told who stood there, and who stands there stays.
    have hplace : (visits[n]).place = n := by
      have := congrArg (·[n]?) h.places
      simpa [List.getElem?_range', hn] using this
    have hlisted := h.listed visits[n] (List.getElem_mem hn)
    rw [hplace, ← Array.getElem?_toList] at hlisted
    rw [List.getElem?_take_of_lt hn, hlisted]
    simp [hn]
  · rw [List.getElem?_eq_none (by simpa using hn), List.getElem?_eq_none]
    simp
    omega

/-- A round in which nobody fails ends at the end of the list. -/
theorem reaches_end (h : Round cast news place m visits (.ok ()) m')
    (hplace : place ≤ m.solver.observers.size) :
    place + visits.length = m'.solver.observers.size ∧ ∀ v ∈ visits, v.result = .ok () := by
  generalize hresult : (Except.ok () : Except Failure Unit) = result at h
  induction h with
  | ended hend =>
    rw [Array.getElem?_eq_none_iff] at hend
    refine ⟨?_, by simp⟩
    simp only [List.length_nil]
    omega
  | failed htells hfailed => cases hresult
  | @told v visits result m' htells hok hrest ih =>
    obtain ⟨hin, -⟩ := Array.getElem?_eq_some_iff.1 (htells.grows.listed htells.listed)
    obtain ⟨hsize, hall⟩ := ih hin hresult
    refine ⟨?_, List.forall_mem_cons.2 ⟨hok.trans hresult, hall⟩⟩
    rw [List.length_cons]
    omega

/-- A round in which somebody fails ends there. -/
theorem ends_failing {cause : Failure} (h : Round cast news place m visits (.error cause) m') :
    ∃ earlier last, visits = earlier ++ [last] ∧ last.result = .error cause ∧
      last.after = m' ∧ ∀ v ∈ earlier, v.result = .ok () := by
  generalize hresult : (Except.error cause : Except Failure Unit) = result at h
  induction h with
  | ended => cases hresult
  | @failed v cause' htells hfailed =>
    obtain rfl : cause = cause' := Except.error.inj hresult
    exact ⟨[], v, rfl, hfailed, rfl, by simp⟩
  | @told v visits result m' htells hok hrest ih =>
    obtain ⟨earlier, last, rfl, hlast, hafter, hall⟩ := ih hresult
    exact ⟨v :: earlier, last, rfl, hlast, hafter, List.forall_mem_cons.2 ⟨hok, hall⟩⟩

end Round

/-! ## What is seen in a round -/

/-- Unless the search has moved on, by a commit, or its count was overwritten, it is seen as it
    was. -/
def Machine.SeenAs (m₁ m : Machine W (LocalSearch W S) S) : Prop :=
  ∃ l, m.past = m₁.past ++ l ∧
    ((∀ e ∈ l, e.isCommit = false ∧ e.isOverwriting = false) →
      LocalSearch.method.view m.solver = LocalSearch.method.view m₁.solver)

namespace Machine.SeenAs

variable {m₁ m₂ : Machine W (LocalSearch W S) S}

theorem refl (m : Machine W (LocalSearch W S) S) : m.SeenAs m :=
  ⟨[], by simp, fun _ => rfl⟩

theorem aside (h : m₁.SeenAs m) (ha : m.Aside m') : m₁.SeenAs m' := by
  obtain ⟨l, hpast, hview⟩ := h
  obtain ⟨work, -, hwork⟩ := ha.past
  refine ⟨l ++ work, by rw [hwork, hpast, List.append_assoc], fun hl => ?_⟩
  rw [ha.solver]
  exact hview fun e he => hl e (List.mem_append_left _ he)

/-- After a commit the search has moved on. -/
theorem committed (h : m₁.SeenAs m) {e : Entry S} (hcommit : m.Commits m' [e]) :
    m₁.SeenAs m' := by
  obtain ⟨l, hpast, -⟩ := h
  obtain ⟨l', hpast', hfilter⟩ := hcommit
  have he : e ∈ l'.filter Entry.isCommit := by simp [hfilter]
  obtain ⟨hmem, hcommits⟩ := List.mem_filter.1 he
  refine ⟨l ++ l', by rw [hpast', hpast, List.append_assoc], fun hl => ?_⟩
  rw [(hl e (List.mem_append_right _ hmem)).1] at hcommits
  cases hcommits

theorem lasting (m₁ : Machine W (LocalSearch W S) S) :
    LocalSearch.Lasting fun m => m₁.SeenAs m where
  aside _ _ h ha := h.aside ha
  recorded _ _ h := h
  glimpsed m entry _ h := by
    obtain ⟨l, hpast, hview⟩ := h
    refine ⟨l ++ [entry (LocalSearch.method.sight m)], ?_, fun hl => ?_⟩
    · rw [Machine.past_glimpsed, hpast, List.append_assoc]
    · exact hview fun e he => hl e (List.mem_append_left _ he)
  observed _ _ h := h
  overwritten m n h := by
    obtain ⟨l, hpast, -⟩ := h
    refine ⟨l ++ [.overwritten n], ?_, fun hl => ?_⟩
    · rw [Machine.past_overwritten, hpast, List.append_assoc]
    · have := (hl (.overwritten n) (by simp)).2
      simp [Entry.isOverwriting] at this
  entered m result h hm := by
    cases hm with
    | failed ha => exact h.aside ha
    | unreported ha ha' _ => exact h.committed (ha.commits (past_chosen _ _) ha' rfl)
    | @entered initial m₂ m₃ ha ha' =>
      have hcommit : m.Commits m₃.opened [.started initial] :=
        ha.commits (n := m₃) (past_chosen _ _) ha' rfl
      exact h.committed hcommit
  strode m result h hm := by
    cases hm with
    | failed ha => exact h.aside ha
    | unreported _ _ ha ha' _ => exact h.committed (ha.commits (past_judged _ _ _) ha' rfl)
    | @strode neighbor accepted m₂ m₃ _ _ ha ha' =>
      have hcommit : m.Commits m₃.counted [.decided neighbor accepted] :=
        ha.commits (n := m₃) (past_judged _ _ _) ha' rfl
      exact h.committed hcommit

end Machine.SeenAs

theorem Visit.Tells.keeps {v : Visit W S} (h : v.Tells cast news)
    {P : Machine W (LocalSearch W S) S → Prop} (hP : LocalSearch.Lasting P) (hbefore : P v.before) :
    P v.after := by
  obtain ⟨fuel, hrun⟩ := h.ends
  have hkept := (hP.keeps_notify cast ((hP.upheld cast).serve fuel) news v.place v.observer).leaves
    (fun _ hm => hm) hbefore
  rw [hrun] at hkept
  exact hkept

/-- What lasts, in the sense of `LocalSearch.Lasting`, holds at every visit of a round. -/
theorem Round.keeps (h : Round cast news place m visits result m')
    {P : Machine W (LocalSearch W S) S → Prop} (hP : LocalSearch.Lasting P) (hm : P m) :
    ∀ v ∈ visits, P v.before := by
  induction h with
  | ended => simp
  | failed htells => simpa using hm
  | told htells _ _ ih => exact List.forall_mem_cons.2 ⟨hm, ih (htells.keeps hP hm)⟩

theorem Round.tells (h : Round cast news place m visits result m') :
    ∀ v ∈ visits, v.Tells cast news := by
  induction h with
  | ended => simp
  | failed htells => simpa using htells
  | told htells _ _ ih => exact List.forall_mem_cons.2 ⟨htells, ih⟩

/-! ## Rounds of calls -/

/-- If the turn comes to its news, its call goes on with a round. -/
theorem Turn.call_of_returned {t : Turn W S} {m₁ : Machine W (LocalSearch W S) S}
    (hreached : t.outcome = (.ok news, m₁))
    (nested : Call → Action W (LocalSearch W S) S Unit) (fuel : Nat) :
    (t.call cast nested fuel).runOn t.before
      = (Solver.round LocalSearch.method cast nested news fuel 0).runOn m₁ := by
  cases t with
  | start m =>
    change (Solver.enter LocalSearch.method).runOn m = _ at hreached
    rw [call, before, Solver.begin, Action.run_bind, hreached]
  | step m =>
    change (Solver.stride LocalSearch.method).runOn m = _ at hreached
    rw [call, before, Solver.advance, Action.run_bind, hreached]

/-- If a turn that was called has come to its news, the observers are told in a round. -/
theorem Turn.exists_round {t : Turn W S} {m₁ : Machine W (LocalSearch W S) S}
    (hreached : t.outcome = (.ok news, m₁))
    (hcall : Solver.Serves LocalSearch.method cast t.asks t.before result m') :
    ∃ visits, Round cast news 0 m₁ visits result m' := by
  obtain ⟨fuel, hrun⟩ := hcall
  cases fuel with
  | zero => exact absurd (congrArg Prod.fst hrun).symm (Action.mapError_failed_ne result)
  | succ fuel =>
    have hcalled : (t.call cast (Solver.serve LocalSearch.method cast fuel) fuel).runOn t.before
        = (result.mapError .failed, m') := by
      cases t <;> exact hrun
    rw [t.call_of_returned hreached] at hcalled
    exact exists_visits hcalled

/-- A call of a start or a step that has come to its news tells them to all observers, one visit
    after another. The visits go through the list in order, place by place. If nobody fails they
    reach the end of the list as it stands then, so whoever joined on the way was told as well; if
    somebody fails, that visit is the last. All are told the news of this very turn, its own commit
    (`Turn.Announces`), wherever the search has gone meanwhile, and as long as it has not moved on
    and its count was not overwritten, each of them sees it as the turn left it
    (`Machine.SeenAs`). -/
theorem round_tells_everyone (cast : Cast W S) {t : Turn W S} {news : News S}
    {m₁ m' : Machine W (LocalSearch W S) S} {result : Except Failure Unit}
    (hreached : t.outcome = (.ok news, m₁))
    (hcall : Solver.Serves LocalSearch.method cast t.asks t.before result m') :
    t.Announces news m₁ ∧
      ∃ visits, Round cast news 0 m₁ visits result m' ∧
        visits.map Visit.place = List.range visits.length ∧
        visits.map Visit.observer = m'.solver.observers.toList.take visits.length ∧
        (result = .ok () → visits.length = m'.solver.observers.size ∧
          ∀ v ∈ visits, v.result = .ok ()) ∧
        (∀ cause, result = .error cause → ∃ earlier last, visits = earlier ++ [last] ∧
          last.result = .error cause ∧ last.after = m' ∧ ∀ v ∈ earlier, v.result = .ok ()) ∧
        ∀ v ∈ visits, m₁.SeenAs v.before ∧
          v.before.past ++ [.notified v.place v.observer news (LocalSearch.method.sight v.before)]
            <+: v.after.past := by
  obtain ⟨visits, hround⟩ := Turn.exists_round hreached hcall
  refine ⟨Turn.announces hreached, visits, hround, ?_, hround.observers, ?_, ?_, ?_⟩
  · rw [hround.places, List.range_eq_range']
  · rintro rfl
    obtain ⟨hsize, hall⟩ := hround.reaches_end (Nat.zero_le _)
    exact ⟨by omega, hall⟩
  · rintro cause rfl
    exact hround.ends_failing
  · intro v hv
    exact ⟨hround.keeps (Machine.SeenAs.lasting m₁) (.refl m₁) v hv, (hround.tells v hv).told⟩

/-- An observer that is told of a start lets another one join, and steps. The other one is told of
    the step first, and then in its turn of the start. -/
theorem round_tells_everyone_joining :
    let cast : Cast (List Bare) Bare :=
      { observer := fun o => if o = 0 then .custom fun
          | .started _ => do
            Program.calling (.observe 1)
            Program.calling .step
          | .stepped .. => .done ()
        else .silent
        stop := fun _ => .done true }
    let m := Machine.listed ([5, 3].map Bare.costing) #[0] Level.info
    let news := News.started (some (Bare.costing 5))
    ∃ m₁ m' visits, (Turn.start m).outcome = (.ok news, m₁) ∧
      Solver.Serves LocalSearch.method cast .start m (.ok ()) m' ∧
      m'.solver.inner.current = some (.costing 3) ∧
      Round cast news 0 m₁ visits (.ok ()) m' ∧
      visits.map Visit.place = [0, 1] ∧ visits.map Visit.observer = [0, 1] := by
  intro cast m news
  have hnews : (Turn.start m).outcome.1 = .ok news := by decide +kernel
  have hended : ((Solver.serve LocalSearch.method cast 9 .start).runOn m).1 = .ok () := by
    decide +kernel
  have hlist : ((Solver.serve LocalSearch.method cast 9 .start).runOn m).2.solver.observers.toList
      = [0, 1] := by decide +kernel
  obtain ⟨m₁, hreached⟩ : ∃ m₁, (Turn.start m).outcome = (.ok news, m₁) := ⟨_, Prod.ext hnews rfl⟩
  have hcall : Solver.Serves LocalSearch.method cast .start m (.ok ()) _ := .of_run hended
  obtain ⟨-, visits, hround, hplaces, hobservers, hall, -⟩ :=
    round_tells_everyone cast hreached hcall
  have hlength : visits.length = 2 := by
    rw [(hall rfl).1, ← Array.length_toList, hlist]
    rfl
  refine ⟨_, _, visits, hreached, hcall, by decide +kernel, hround, ?_, ?_⟩
  · rw [hplaces, hlength]
    rfl
  · rw [hobservers, hlength, hlist]
    rfl

end HillClimb
