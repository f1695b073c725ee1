import HillClimb.Proofs.Lasting

set_option autoImplicit false

/-! # Commits and what is seen of a search

Whoever sees a local search sees what its commits have made of it, at any moment and however calls
nest and fail: where it is, how many decisions ago it was last started, and how many rejections in a
row came last (`sights_follow_commits`).

* `Located`: the current solution and the count of rejections, which are changed together with the
  commit.
* `Counted`: the phase and the number of steps, which are changed after the record for debugging is
  written. These two need that writing the record does not fail (`Quiet`).
* `Standing` is the invariant: a machine shows both, and always did (`Standing.lasting`). -/

namespace HillClimb

variable {W S α : Type}

/-! ## What the history tells -/

/-- The current solution and the count of rejections are those that the history tells, the count as
    long as it was not overwritten, and a solver that is ready was started. -/
structure Located (past : List (Entry S)) (seen : View S) : Prop where
  current : seen.current = (stretchOf past).map Stretch.current
  stagnation : (∀ e ∈ past, e.isOverwriting = false) →
    seen.stagnation = some (rejectionsOf past : Int)
  started : seen.phase = .ready → (stretchOf past).isSome

/-- A solver that was started is `ready`, and its steps are the decisions of the present stretch. -/
structure Counted (past : List (Entry S)) (seen : View S) : Prop where
  ready : (stretchOf past).isSome → seen.phase = .ready
  steps : seen.steps = (decisionsOf past : Int)

namespace Located

variable {past : List (Entry S)} {seen : View S} {st : Stretch S}

/-- A search that is ready is in a stretch. -/
theorem stretch (h : Located past seen) (hready : seen.phase = .ready) :
    ∃ st, stretchOf past = some st :=
  Option.isSome_iff_exists.1 (h.started hready)

theorem current_of_stretch (h : Located past seen) (hst : stretchOf past = some st) :
    seen.current = some st.current := by
  rw [h.current, hst]
  rfl

theorem stagnation_of_stretch (h : Located past seen)
    (hcount : ∀ e ∈ past, e.isOverwriting = false) (hst : stretchOf past = some st) :
    seen.stagnation = some (st.rejections : Int) := by
  rw [h.stagnation hcount, rejectionsOf, hst]
  rfl

end Located

/-- Entries that are no commits change nothing of where the search is. -/
theorem Located.append {past l : List (Entry S)} {seen : View S} (h : Located past seen)
    (hl : ∀ e ∈ l, e.isCommit = false) : Located (past ++ l) seen := by
  have hstretch := stretchOf_append past hl
  refine ⟨?_, fun hnone => ?_, ?_⟩ <;> simp only [rejectionsOf, hstretch]
  · exact h.current
  · exact h.stagnation fun e he => hnone e (List.mem_append_left l he)
  · exact h.started

theorem Counted.append {past l : List (Entry S)} {seen : View S} (h : Counted past seen)
    (hl : ∀ e ∈ l, e.isCommit = false) : Counted (past ++ l) seen := by
  have hstretch := stretchOf_append past hl
  refine ⟨?_, ?_⟩ <;> simp only [decisionsOf, hstretch]
  · exact h.ready
  · exact h.steps

variable [Candidate S]

/-- No record for debugging is written, or no cost failed to be known. -/
def Quiet (level : Int) (past : List (Entry S)) : Prop :=
  Level.debug < level ∨ CostsKnown past

theorem Quiet.of_append {level : Int} {past l : List (Entry S)} (h : Quiet level (past ++ l)) :
    Quiet level past :=
  h.imp_right CostsKnown.of_append

/-- Writing the record fails only where it is not `Quiet`. -/
theorem Unreported.not_quiet {level : Int} {s : S} {cause : Failure} {past : List (Entry S)}
    (h : Unreported level (some s) cause past) : ¬ Quiet level past := by
  rintro (hlevel | hknown)
  · exact absurd h.level (by omega)
  · exact hknown.not_failed (h.asked s rfl) cause (h.cost s rfl)

/-- What is seen of a local search is what the history tells: `Located`, and `Counted` if it is
    `Quiet`. -/
structure Shown (level : Int) (past : List (Entry S)) (seen : View S) : Prop where
  located : Located past seen
  counted : Quiet level past → Counted past seen

theorem Shown.append {level : Int} {past l : List (Entry S)} {seen : View S}
    (h : Shown level past seen) (hl : ∀ e ∈ l, e.isCommit = false) :
    Shown level (past ++ l) seen :=
  ⟨h.located.append hl, fun hquiet => (h.counted hquiet.of_append).append hl⟩

/-! ## Transitions -/

section

variable {level : Int} {m m₁ m₂ : Machine W (LocalSearch W S) S}

/-- A choice puts the search where its history tells. -/
theorem located_chosen {initial : S} (h : (m.chosen initial).Aside m₂) :
    Located m₂.past (LocalSearch.method.view m₂.solver) := by
  refine ⟨?_, fun _ => ?_, fun _ => ?_⟩ <;> simp only [rejectionsOf, Machine.stretch_chosen h]
  · rw [h.solver]
    rfl
  · rw [h.solver]
    rfl
  · rfl

/-- A decision of a search that was started puts it where its history tells. -/
theorem located_judged (hm : Located m.past (LocalSearch.method.view m.solver))
    (hready : m.solver.phase = .ready) {neighbor : S} {accepted : Bool} (h : m.Aside m₁)
    (h' : (m₁.judged neighbor accepted).Aside m₂) :
    Located m₂.past (LocalSearch.method.view m₂.solver) := by
  obtain ⟨st, hst⟩ := hm.stretch hready
  -- A decision is made where the stretch has led to, and what was overwritten stays in the history.
  have hcurrent : m.solver.inner.current = some st.current := hm.current_of_stretch hst
  have hunseen := (Machine.Unseen.of_aside h).trans
    ((Machine.unseen_judged m₁ neighbor accepted).trans (.of_aside h'))
  refine ⟨?_, fun hnone => ?_, fun _ => ?_⟩ <;>
    simp only [rejectionsOf, Machine.stretch_judged h h' hst]
  · rw [h'.solver]
    cases accepted <;>
      simp [Method.view, LocalSearch.method, Machine.judged, h.solver, hcurrent]
  · have hstagnation : m.solver.inner.stagnation = (st.rejections : Nat) :=
      Option.some.inj (hm.stagnation_of_stretch (fun e he => hnone e (hunseen.mem he)) hst)
    rw [h'.solver]
    cases accepted <;>
      simp [Method.view, LocalSearch.method, Machine.judged, h.solver, hstagnation]
  · rfl

/-- A search that was started is somewhere after a decision. -/
theorem current_judged (hm : Located m.past (LocalSearch.method.view m.solver))
    (hready : m.solver.phase = .ready) {neighbor : S} {accepted : Bool} (h : m.Aside m₁)
    (h' : (m₁.judged neighbor accepted).Aside m₂) : ∃ s, m₂.solver.inner.current = some s := by
  obtain ⟨st, hst⟩ := hm.stretch hready
  exact ⟨_, (located_judged hm hready h h').current_of_stretch (Machine.stretch_judged h h' hst)⟩

/-- A machine that shows what its history tells, and always did: every sight is `Shown`, too. -/
structure Standing (level : Int) (m : Machine W (LocalSearch W S) S) : Prop where
  logs : m.level = level
  shown : Shown level m.past (LocalSearch.method.view m.solver)
  sights : EverySight (fun before _ seen => Shown level before seen.toView) m.past

namespace Standing

theorem aside (h : Standing level m) (ha : m.Aside m₂) : Standing level m₂ := by
  refine ⟨ha.level.trans h.logs, ?_, (Machine.Unseen.of_aside ha).sights h.sights⟩
  obtain ⟨work, hwork, hpast⟩ := ha.past
  rw [hpast, ha.solver]
  exact h.shown.append fun e he => Entry.isCommit_of_isWork (hwork e he)

/-- Whoever looks sees what the history tells. -/
theorem glimpsed (h : Standing level m) {entry : Sight S → Entry S}
    (hentry : ∀ seen, (entry seen).sight? = some seen) : Standing level (m.glimpsed entry) := by
  refine ⟨h.logs, ?_, h.sights.glimpsed hentry h.shown⟩
  rw [Machine.past_glimpsed]
  refine h.shown.append fun e he => ?_
  rw [List.mem_singleton.1 he]
  exact (Entry.isCommit_of_sight? (hentry _)).1

theorem overwritten (h : Standing level m) (n : Int) : Standing level (m.overwritten n) := by
  have hcommit : ∀ e ∈ [Entry.overwritten (S := S) n], e.isCommit = false := by
    simp [Entry.isCommit]
  have hshown := h.shown.append hcommit
  rw [← Machine.past_overwritten] at hshown
  refine ⟨h.logs, ⟨⟨hshown.located.current, fun hnone => ?_, hshown.located.started⟩, fun hquiet =>
    ⟨(hshown.counted hquiet).ready, (hshown.counted hquiet).steps⟩⟩, h.sights.overwritten n⟩
  -- The count no longer agrees, but the history tells that it was overwritten.
  have := hnone (.overwritten n) (by rw [Machine.past_overwritten]; simp)
  simp [Entry.isOverwriting] at this

/-- A start leaves the search where its history tells, whatever comes of it (`Entered`). -/
theorem entered (h : Standing level m)
    {result : Except Halt (News S) × Machine W (LocalSearch W S) S} (hm : Entered m result) :
    Standing level result.2 := by
  refine ⟨hm.unseen.level.trans h.logs, ?_, hm.unseen.sights h.sights⟩
  cases hm with
  | failed ha => exact (h.aside ha).shown
  | unreported ha ha' hcost =>
    rw [h.logs] at hcost
    exact ⟨located_chosen ha', fun hquiet => absurd hquiet hcost.not_quiet⟩
  | @entered initial m₁ m₂ ha ha' =>
    have hlocated := located_chosen ha'
    have hstretch : stretchOf m₂.opened.past = some ⟨initial, []⟩ := (Machine.stretch_chosen ha' :)
    refine ⟨⟨hlocated.current, hlocated.stagnation, fun _ => ?_⟩, fun _ => ⟨fun _ => rfl, ?_⟩⟩ <;>
      simp only [decisionsOf, hstretch] <;> rfl

/-- A step leaves the search where its history tells, whatever comes of it (`Strode`). -/
theorem strode (h : Standing level m)
    {result : Except Halt (News S) × Machine W (LocalSearch W S) S} (hm : Strode m result) :
    Standing level result.2 := by
  refine ⟨hm.unseen.level.trans h.logs, ?_, hm.unseen.sights h.sights⟩
  -- What is quiet now was quiet before.
  have hquiet : Quiet level result.2.past → Quiet level m.past := by
    obtain ⟨l, -, hpast⟩ := hm.unseen.past
    rw [hpast]
    exact Quiet.of_append
  cases hm with
  | failed ha => exact (h.aside ha).shown
  | unreported hready hjudges ha ha' hcost =>
    -- The step has committed and is not counted, but then it was not quiet.
    obtain ⟨s, hs⟩ := current_judged h.shown.located hready ha ha'
    rw [h.logs, hs] at hcost
    exact ⟨located_judged h.shown.located hready ha ha', fun hq => absurd hq hcost.not_quiet⟩
  | @strode neighbor accepted m₁ m₂ hready hjudges ha ha' =>
    have hlocated := located_judged h.shown.located hready ha ha'
    obtain ⟨st, hst⟩ := h.shown.located.stretch hready
    have hstretch : stretchOf m₂.counted.past = some (st.decide neighbor accepted) :=
      Machine.stretch_judged ha ha' hst
    -- The decision itself changes neither the phase nor the number of steps.
    have hphase : m₂.solver.phase = m.solver.phase := by
      simp only [ha'.solver, Machine.judged, ha.solver]
    have hsame : m₂.solver.steps = m.solver.steps := by
      simp only [ha'.solver, Machine.judged, ha.solver]
    refine ⟨⟨hlocated.current, hlocated.stagnation, hlocated.started⟩, fun hq => ⟨fun _ => ?_, ?_⟩⟩
    · exact hphase.trans hready
    · have hsteps : m.solver.steps = (st.decisions.length : Nat) := by
        have := (h.shown.counted (hquiet hq)).steps
        rwa [decisionsOf, hst] at this
      rw [decisionsOf, hstretch]
      simp [Method.view, Machine.counted, hsame, hsteps]

/-- What a search shows lasts. -/
theorem lasting (level : Int) :
    LocalSearch.Lasting (Standing level : Machine W (LocalSearch W S) S → Prop) where
  aside _ _ h ha := h.aside ha
  recorded _ _ h := ⟨h.logs, h.shown, h.sights⟩
  glimpsed _ _ hentry h := h.glimpsed hentry
  observed _ _ h := ⟨h.logs, h.shown, h.sights⟩
  overwritten _ n h := h.overwritten n
  entered _ _ h hm := h.entered hm
  strode _ _ h hm := h.strode hm

end Standing

end

/-! ## News -/

section

variable {m m' : Machine W (LocalSearch W S) S} {news : News S}

/-- The news of a start are of the initial solution that was chosen. -/
theorem Entered.started (h : Entered m (.ok news, m')) :
    ∃ s, news = .started (some s) ∧ Entry.started s ∈ m'.past := by
  cases h with
  | @entered initial m₁ m₂ ha ha' =>
    refine ⟨initial, rfl, ?_⟩
    obtain ⟨work, -, hpast⟩ := ha'.past
    show Entry.started initial ∈ m₂.past
    rw [hpast, Machine.past_chosen]
    simp

/-- The news of a step are of a neighbour, and the search was started before. -/
theorem Strode.started {level : Int} (h : Strode m (.ok news, m')) (hm : Standing level m) :
    (∃ neighbor accepted, news = .stepped neighbor accepted) ∧
      ∃ s, Entry.started s ∈ m'.past := by
  have hunseen := h.unseen
  cases h with
  | strode hready hjudges ha ha' =>
    obtain ⟨s, hs⟩ := (isSome_stretchOf m.past).1 (hm.shown.located.started hready)
    exact ⟨⟨_, _, rfl⟩, s, hunseen.mem hs⟩

end

/-! ## New searches -/

/-- A machine on which a search was made and nothing has happened yet. -/
structure Machine.Fresh (m : Machine W (LocalSearch W S) S) : Prop where
  past : m.past = []
  phase : m.solver.phase = .uninitialized
  steps : m.solver.steps = 0
  current : m.solver.inner.current = none
  stagnation : m.solver.inner.stagnation = 0

omit [Candidate S] in
/-- What a solver is like when it is made. -/
theorem Solver.eq_of_new {I : Type} {name : String} {seed : Option Offer} {clock : Value}
    {generator : Option GeneratorId} {observers : Array ObserverId} {inner : I}
    {generators generators' : Generators} {solver : Solver I}
    (h : Solver.new name seed clock generator observers inner generators
      = .ok (solver, generators')) :
    ∃ n g, solver = ⟨name, n, g, observers, 0, .uninitialized, inner⟩ := by
  cases seed with
  | none =>
    cases hs : Seed.ofClock clock with
    | error cause => simp [Solver.new, hs, bind, Except.bind] at h
    | ok n =>
      simp only [Solver.new, hs, bind, Except.bind, pure, Except.pure, Except.ok.injEq,
        Prod.mk.injEq] at h
      exact ⟨n, _, h.1.symm⟩
  | some offer =>
    cases hs : offer.validate with
    | error cause => simp [Solver.new, hs, bind, Except.bind] at h
    | ok n =>
      simp only [Solver.new, hs, bind, Except.bind, pure, Except.pure, Except.ok.injEq,
        Prod.mk.injEq] at h
      exact ⟨n, _, h.1.symm⟩

omit [Candidate S] in
/-- Whatever a search is made with, by `Solver.new`, it is new. -/
theorem Machine.fresh_new {name : String} {seed : Option Offer} {clock : Value}
    {generator : Option GeneratorId} {observers : Array ObserverId}
    {factory : Option (Factory W S)} {comparator : Option (Comparator W S)}
    {acceptance : Option (Acceptance W S)} {generators generators' : Generators}
    {solver : Solver (LocalSearch W S)}
    (h : Solver.new name seed clock generator observers
      (LocalSearch.new factory comparator acceptance) generators = .ok (solver, generators'))
    (world : W) (recordings : Recordings) (journal : Array LogRecord) (level : Int) :
    Machine.Fresh ⟨solver, world, generators', recordings, #[], journal, level⟩ := by
  obtain ⟨n, g, rfl⟩ := Solver.eq_of_new h
  exact ⟨rfl, rfl, rfl, rfl, rfl⟩

/-- A new search shows what its history tells: nothing. -/
theorem Machine.Fresh.standing {m : Machine W (LocalSearch W S) S} (h : m.Fresh) :
    Standing m.level m := by
  refine ⟨rfl, ⟨⟨?_, fun _ => ?_, fun hready => ?_⟩, fun _ => ⟨fun hsome => ?_, ?_⟩⟩, ?_⟩
  · rw [h.past]
    exact h.current
  · rw [h.past]
    exact congrArg some h.stagnation
  · rw [show (LocalSearch.method.view m.solver).phase = _ from h.phase] at hready
    cases hready
  · rw [h.past] at hsome
    cases hsome
  · rw [h.past]
    exact h.steps
  · rw [h.past]
    exact .nil

/-! ## Searches through a list -/

/-- Hands out the next solution of a list. -/
def Hook.next : Hook (List S) S S := do
  match ← Hook.world with
  | [] => throw .scriptExhausted
  | s :: rest =>
    Hook.change fun _ => rest
    return s

/-- The machine of a new search that goes through a list of solutions by `Hook.next`. -/
def Machine.listed (solutions : List S) (observers : Array ObserverId) (level : Int) :
    Machine (List S) (LocalSearch (List S) S) S :=
  ⟨⟨"", 0, 0, observers, 0, .uninitialized,
      LocalSearch.new (some ⟨fun _ => Hook.next, fun _ _ => Hook.next⟩) none none⟩,
    solutions, #[], {}, #[], #[], level⟩

omit [Candidate S] in
theorem Machine.fresh_listed (solutions : List S) (observers : Array ObserverId) (level : Int) :
    (Machine.listed solutions observers level).Fresh :=
  ⟨rfl, rfl, rfl, rfl, rfl⟩

/-- A solution that is nothing but its cost, if that can be known. -/
inductive Bare where
  | costing (n : Int)
  | failing
  deriving DecidableEq

instance : Candidate Bare where
  costs
    | .costing n => .ok (.int n)
    | .failing => .error (.raised (.other "RuntimeError") "boom")
  text _ := ""
  preference _ _ := .lowerCost

/-- The first observer records, and the others make a step as soon as a search is started. -/
def Cast.eager : Cast W S where
  observer o := if o = 0 then .recorder else .custom fun
    | .started _ => Program.calling .step
    | .stepped .. => .done ()
  stop _ := .done true

/-! ## What is seen -/

/-- What is seen is what the commits have made of the search: it is `ready` if and only if it ever
    chose an initial solution, and the rest tells of the decisions since it last did. -/
structure Follows (past : List (Entry S)) (seen : View S) : Prop where
  ready : seen.phase = .ready ↔ ∃ s, Entry.started s ∈ past
  steps : seen.steps = (decisionsOf past : Int)
  stagnation : seen.stagnation = some (rejectionsOf past : Int)
  bounded : ∀ n, seen.stagnation = some n → 0 ≤ n ∧ n ≤ seen.steps
  current : seen.current = (stretchOf past).map Stretch.current

theorem Shown.follows {level : Int} {past : List (Entry S)} {seen : View S}
    (h : Shown level past seen) (hquiet : Quiet level past)
    (hcount : ∀ e ∈ past, e.isOverwriting = false) : Follows past seen := by
  have hstagnation := h.located.stagnation hcount
  have hsteps := (h.counted hquiet).steps
  refine ⟨?_, hsteps, hstagnation, fun n hn => ?_, h.located.current⟩
  · rw [← isSome_stretchOf]
    exact ⟨h.located.started, (h.counted hquiet).ready⟩
  · rw [hstagnation, Option.some.injEq] at hn
    rw [← hn, hsteps]
    exact ⟨Int.natCast_nonneg _, Int.ofNat_le.2 (rejectionsOf_le past)⟩

/-- What is seen follows the commits, everywhere in a `Quiet` history. -/
theorem Standing.follows {level : Int} {m : Machine W (LocalSearch W S) S} (h : Standing level m)
    (hquiet : Quiet level m.past) (hcount : ∀ e ∈ m.past, e.isOverwriting = false) :
    EverySight (fun before _ seen => Follows before seen.toView) m.past := by
  intro before e after hsplit seen hseen
  rw [hsplit] at hquiet hcount
  exact (h.sights before e after hsplit seen hseen).follows hquiet.of_append
    fun e' he' => hcount e' (List.mem_append_left _ he')

omit [Candidate S] in
/-- Whoever looks after a ready solver was seen sees a ready solver. -/
theorem EverySight.ready {past before after : List (Entry S)} {e e' : Entry S}
    {seen seen' : Sight S}
    (h : EverySight (fun before _ seen => Follows before seen.toView) past)
    (hsplit : past = before ++ e :: after) (hseen : e.sight? = some seen)
    (hready : seen.phase = .ready) (he' : e' ∈ after) (hseen' : e'.sight? = some seen') :
    seen'.phase = .ready := by
  obtain ⟨s, hs⟩ := (h before e after hsplit seen hseen).ready.1 hready
  obtain ⟨between, rest, rfl⟩ := List.append_of_mem he'
  have hsplit' : past = (before ++ e :: between) ++ e' :: rest := by
    rw [hsplit, List.append_assoc, List.cons_append]
  exact (h _ e' rest hsplit' seen' hseen').ready.2 ⟨s, List.mem_append_left _ hs⟩

/-- A search is seen as its commits have made it, by the observers, the stop conditions and the
    caller, wherever calls nest and fail, and it never leaves `ready`. What was seen is every
    `Sight` in the transcript, and what is seen in the end is the `View` of the solver. -/
theorem sights_follow_commits (cast : Cast W S) (fuel : Nat) (caller : Program W S α)
    {m m' : Machine W (LocalSearch W S) S} (hfresh : m.Fresh)
    (hrun : ((caller.play LocalSearch.method
      (Solver.serve LocalSearch.method cast fuel)).runOn m).2 = m')
    (hquiet : Quiet m.level m'.past) (hcount : ∀ e ∈ m'.past, e.isOverwriting = false) :
    EverySight (fun before _ seen => Follows before seen.toView) m'.past ∧
      Follows m'.past (LocalSearch.method.view m'.solver) ∧
      ∀ before e after seen, m'.past = before ++ e :: after → e.sight? = some seen →
        seen.phase = .ready →
          (∀ e' ∈ after, ∀ seen', e'.sight? = some seen' → seen'.phase = .ready) ∧
            m'.solver.phase = .ready := by
  subst hrun
  have hstanding := (Standing.lasting m.level).holds cast fuel caller hfresh.standing
  have hsights := hstanding.follows hquiet hcount
  have hfinal := hstanding.shown.follows hquiet hcount
  refine ⟨hsights, hfinal, fun before e after seen hsplit hseen hready => ⟨?_, ?_⟩⟩
  · exact fun e' he' seen' hseen' => hsights.ready hsplit hseen hready he' hseen'
  · obtain ⟨s, hs⟩ := (hsights before e after hsplit seen hseen).ready.1 hready
    refine hfinal.ready.2 ⟨s, ?_⟩
    rw [hsplit]
    exact List.mem_append_left _ hs

/-- A start in which an observer steps, and another step: the second neighbour is rejected. -/
theorem sights_follow_commits_eager :
    let m := Machine.listed ([5, 3, 4].map Bare.costing) #[0, 1] Level.info
    let caller : Program (List Bare) Bare Unit := do
      Program.calling .start
      Program.calling .step
    let m' := ((caller.play LocalSearch.method
      (Solver.serve LocalSearch.method Cast.eager 9)).runOn m).2
    m'.solver.steps = 2 ∧ m'.solver.inner.stagnation = 1 ∧
      Follows m'.past (LocalSearch.method.view m'.solver) :=
  ⟨by decide +kernel, by decide +kernel,
    (sights_follow_commits Cast.eager 9 _ (Machine.fresh_listed _ _ _) rfl
      (.inl (by decide)) (by decide +kernel)).2.1⟩

end HillClimb
