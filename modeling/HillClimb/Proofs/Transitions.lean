import HillClimb.Proofs.History
import HillClimb.Solver.LocalSearch

set_option autoImplicit false

/-! # The transitions of a local search

A start or a step of a local search asks hooks, commits, and may then ask for a cost to show it in a
record. `Entered` and `Strode` list all that can come of it: a failure before the commit, a failure
of that cost (`Unreported`), or the news of the transition. Everything that holds of searches is
derived from these two lists, by `entered_enter` and `strode_stride`.

What a commit makes of a machine is `Machine.chosen` or `Machine.judged`; the phase and the number
of steps follow it later (`Machine.opened`, `Machine.counted`). -/

namespace HillClimb

variable {W S : Type}

/-! ## What a commit makes of a machine -/

namespace Machine

/-- The search goes to its initial solution, as `LocalSearch.settle` does. -/
def chosen (m : Machine W (LocalSearch W S) S) (initial : S) : Machine W (LocalSearch W S) S :=
  { m with
    transcript := m.transcript.push (.started initial)
    solver := { m.solver with
      inner := { m.solver.inner with current := some initial, stagnation := 0 } } }

/-- The search decides on a neighbour, as `LocalSearch.conclude` does. -/
def judged (m : Machine W (LocalSearch W S) S) (neighbor : S) (accepted : Bool) :
    Machine W (LocalSearch W S) S :=
  { m with
    transcript := m.transcript.push (.decided neighbor accepted)
    solver := { m.solver with
      inner :=
        if accepted then { m.solver.inner with current := some neighbor, stagnation := 0 }
        else { m.solver.inner with stagnation := m.solver.inner.stagnation + 1 } } }

/-- The solver is ready and has made no steps. -/
def opened (m : Machine W (LocalSearch W S) S) : Machine W (LocalSearch W S) S :=
  { m with solver := { m.solver with steps := 0, phase := .ready } }

/-- The solver has made one more step. -/
def counted (m : Machine W (LocalSearch W S) S) : Machine W (LocalSearch W S) S :=
  { m with solver := { m.solver with steps := m.solver.steps + 1 } }

theorem past_chosen (m : Machine W (LocalSearch W S) S) (initial : S) :
    (m.chosen initial).past = m.past ++ [.started initial] :=
  Array.toList_push

theorem past_judged (m : Machine W (LocalSearch W S) S) (neighbor : S) (accepted : Bool) :
    (m.judged neighbor accepted).past = m.past ++ [.decided neighbor accepted] :=
  Array.toList_push

/-- A choice begins a stretch. -/
theorem stretch_chosen {m m' : Machine W (LocalSearch W S) S} {initial : S}
    (h : (m.chosen initial).Aside m') : stretchOf m'.past = some ⟨initial, []⟩ := by
  rw [h.stretch, past_chosen, stretchOf_concat]
  rfl

/-- A decision goes on with the stretch. -/
theorem stretch_judged {m m₁ m' : Machine W (LocalSearch W S) S} {neighbor : S} {accepted : Bool}
    (h : m.Aside m₁) (h' : (m₁.judged neighbor accepted).Aside m') {st : Stretch S}
    (hst : stretchOf m.past = some st) :
    stretchOf m'.past = some (st.decide neighbor accepted) := by
  rw [h'.stretch, past_judged, stretchOf_concat, h.stretch, hst]
  rfl

theorem unseen_chosen (m : Machine W (LocalSearch W S) S) (initial : S) :
    m.Unseen (m.chosen initial) :=
  ⟨rfl, rfl, rfl, [.started initial], by simp [Entry.sight?, Entry.isOverwriting],
    past_chosen m initial⟩

theorem unseen_judged (m : Machine W (LocalSearch W S) S) (neighbor : S) (accepted : Bool) :
    m.Unseen (m.judged neighbor accepted) :=
  ⟨rfl, rfl, rfl, [.decided neighbor accepted], by simp [Entry.sight?, Entry.isOverwriting],
    past_judged m neighbor accepted⟩

end Machine

/-- At some `HookState` the acceptance rule of the search gives this answer about the neighbour. -/
def LocalSearch.Judges [Candidate S] (s : Solver (LocalSearch W S)) (neighbor : S)
    (accepted : Bool) : Prop :=
  ∃ rule, s.inner.acceptance = some rule ∧ ∃ state,
    ((rule.accepts neighbor s.inner.current (asking s)).runAt state).1 = .ok accepted

variable [Candidate S]

/-- A record for debugging is written, and the cost that it shows cannot be known: the record of
    `LocalSearch.debugCost`. -/
structure Unreported (level : Int) (solution : Option S) (cause : Failure)
    (past : List (Entry S)) : Prop where
  level : level ≤ Level.debug
  cost : ∀ s, solution = some s → Candidate.costs s = .error cause
  asked : ∀ s, solution = some s → Entry.probed (.costs s) ∈ past

/-- What can come of a start: it fails before an initial solution is chosen, or after it for want of
    a cost, or it gives its news. -/
inductive Entered (m : Machine W (LocalSearch W S) S) :
    Except Halt (News S) × Machine W (LocalSearch W S) S → Prop
  | failed {cause : Failure} {m' : Machine W (LocalSearch W S) S} (h : m.Aside m') :
      Entered m (.error (.failed cause), m')
  | unreported {initial : S} {cause : Failure} {m₁ m' : Machine W (LocalSearch W S) S}
      (h : m.Aside m₁) (h' : (m₁.chosen initial).Aside m')
      (hcost : Unreported m.level (some initial) cause m'.past) :
      Entered m (.error (.failed cause), m')
  | entered {initial : S} {m₁ m₂ : Machine W (LocalSearch W S) S}
      (h : m.Aside m₁) (h' : (m₁.chosen initial).Aside m₂) :
      Entered m (.ok (.started (some initial)), m₂.opened)

/-- What can come of a step: it fails before a neighbour is decided on, or after it for want of a
    cost, or it gives its news. -/
inductive Strode (m : Machine W (LocalSearch W S) S) :
    Except Halt (News S) × Machine W (LocalSearch W S) S → Prop
  | failed {cause : Failure} {m' : Machine W (LocalSearch W S) S} (h : m.Aside m') :
      Strode m (.error (.failed cause), m')
  | unreported {neighbor : S} {accepted : Bool} {cause : Failure}
      {m₁ m' : Machine W (LocalSearch W S) S} (hready : m.solver.phase = .ready)
      (hjudges : LocalSearch.Judges m.solver neighbor accepted)
      (h : m.Aside m₁) (h' : (m₁.judged neighbor accepted).Aside m')
      (hcost : Unreported m.level m'.solver.inner.current cause m'.past) :
      Strode m (.error (.failed cause), m')
  | strode {neighbor : S} {accepted : Bool} {m₁ m₂ : Machine W (LocalSearch W S) S}
      (hready : m.solver.phase = .ready)
      (hjudges : LocalSearch.Judges m.solver neighbor accepted)
      (h : m.Aside m₁) (h' : (m₁.judged neighbor accepted).Aside m₂) :
      Strode m (.ok (.stepped neighbor accepted), m₂.counted)

theorem Machine.view_chosen (m : Machine W (LocalSearch W S) S) (initial : S) :
    LocalSearch.method.view (m.chosen initial).solver
      = ⟨m.solver.phase, m.solver.steps, some initial, some 0⟩ := rfl

theorem Machine.view_judged (m : Machine W (LocalSearch W S) S) (neighbor : S) (accepted : Bool) :
    LocalSearch.method.view (m.judged neighbor accepted).solver
      = ⟨m.solver.phase, m.solver.steps, if accepted then some neighbor else m.solver.inner.current,
          some (if accepted then 0 else m.solver.inner.stagnation + 1)⟩ := by
  cases accepted <;> rfl

/-- Nobody sees a start before its observers are told: the machine is `Unseen` until then. -/
theorem Entered.unseen {m : Machine W (LocalSearch W S) S}
    {result : Except Halt (News S) × Machine W (LocalSearch W S) S} (h : Entered m result) :
    m.Unseen result.2 := by
  cases h with
  | failed h => exact .of_aside h
  | unreported h h' hcost =>
    exact (Machine.Unseen.of_aside h).trans ((Machine.unseen_chosen _ _).trans (.of_aside h'))
  | entered h h' =>
    obtain ⟨hobservers, hrecordings, hlevel, hpast⟩ :=
      (Machine.Unseen.of_aside h).trans ((Machine.unseen_chosen _ _).trans (.of_aside h'))
    exact ⟨hobservers, hrecordings, hlevel, hpast⟩

/-- Nobody sees a step before its observers are told: the machine is `Unseen` until then. -/
theorem Strode.unseen {m : Machine W (LocalSearch W S) S}
    {result : Except Halt (News S) × Machine W (LocalSearch W S) S} (h : Strode m result) :
    m.Unseen result.2 := by
  cases h with
  | failed h => exact .of_aside h
  | unreported hready hjudges h h' hcost =>
    exact (Machine.Unseen.of_aside h).trans ((Machine.unseen_judged _ _ _).trans (.of_aside h'))
  | strode hready hjudges h h' =>
    obtain ⟨hobservers, hrecordings, hlevel, hpast⟩ :=
      (Machine.Unseen.of_aside h).trans ((Machine.unseen_judged _ _ _).trans (.of_aside h'))
    exact ⟨hobservers, hrecordings, hlevel, hpast⟩

/-! ## What no transition changes -/

/-- The solver as it was made, but for its observers. -/
def Solver.blank (s : Solver (LocalSearch W S)) : Solver (LocalSearch W S) :=
  { s with
    observers := #[]
    steps := 0
    phase := .uninitialized
    inner := { s.inner with current := none, stagnation := 0 } }

omit [Candidate S] in
theorem Machine.blank_chosen (m : Machine W (LocalSearch W S) S) (initial : S) :
    (m.chosen initial).solver.blank = m.solver.blank := rfl

omit [Candidate S] in
theorem Machine.blank_judged (m : Machine W (LocalSearch W S) S) (neighbor : S)
    (accepted : Bool) : (m.judged neighbor accepted).solver.blank = m.solver.blank := by
  cases accepted <;> rfl

theorem Entered.blank {m : Machine W (LocalSearch W S) S}
    {result : Except Halt (News S) × Machine W (LocalSearch W S) S} (h : Entered m result) :
    result.2.solver.blank = m.solver.blank := by
  cases h with
  | failed h => exact congrArg Solver.blank h.solver
  | unreported h h' hcost => rw [h'.solver, Machine.blank_chosen, h.solver]
  | @entered initial m₁ m₂ h h' =>
    have hopened : m₂.opened.solver.blank = m₂.solver.blank := rfl
    rw [hopened, h'.solver, Machine.blank_chosen, h.solver]

theorem Strode.blank {m : Machine W (LocalSearch W S) S}
    {result : Except Halt (News S) × Machine W (LocalSearch W S) S} (h : Strode m result) :
    result.2.solver.blank = m.solver.blank := by
  cases h with
  | failed h => exact congrArg Solver.blank h.solver
  | unreported hready hjudges h h' hcost =>
    rw [h'.solver, Machine.blank_judged, h.solver]
  | @strode neighbor accepted m₁ m₂ hready hjudges h h' =>
    have hcounted : m₂.counted.solver.blank = m₂.solver.blank := rfl
    rw [hcounted, h'.solver, Machine.blank_judged, h.solver]

namespace LocalSearch

/-! ## Before the commit -/

omit [Candidate S] in
theorem beside_requireFactory :
    (requireFactory : Action W (LocalSearch W S) S (Factory W S)).Beside := by
  refine Action.Beside.get.bind fun m => ?_
  dsimp only
  split
  · exact .pure _
  · exact .fail _

omit [Candidate S] in
theorem beside_createInitial :
    (createInitial : Action W (LocalSearch W S) S S).Beside := by
  refine Action.Beside.get.bind fun m => ?_
  dsimp only
  split
  · exact .hook _
  · exact beside_requireFactory.bind fun factory => (Action.Beside.note rfl).bind fun _ => .hook _

omit [Candidate S] in
theorem beside_createNeighbor :
    (createNeighbor : Action W (LocalSearch W S) S S).Beside := by
  refine Action.Beside.get.bind fun m => ?_
  dsimp only
  split
  · exact .hook _
  · exact beside_requireFactory.bind fun factory => (Action.Beside.note rfl).bind fun _ => .hook _

theorem beside_decide (neighbor : S) :
    (decide neighbor : Action W (LocalSearch W S) S Bool).Beside := by
  refine Action.Beside.get.bind fun m => ?_
  dsimp only
  split
  · exact .fail _
  · exact (Action.Beside.note rfl).bind fun _ => .hook _

/-- What is decided is what the acceptance rule `Judges`. -/
theorem judges_of_decide {neighbor : S} {accepted : Bool}
    {m m' : Machine W (LocalSearch W S) S}
    (h : (decide neighbor).runOn m = (.ok accepted, m')) : Judges m.solver neighbor accepted := by
  simp only [decide, Action.run_bind, Action.run_get] at h
  split at h
  · simp [Action.run_fail] at h
  · rename_i rule hrule
    simp only [Action.run_bind, Action.run_note] at h
    exact ⟨rule, hrule, _, Action.answer_of_hook h⟩

/-! ## After the commit -/

theorem beside_debugCost (solution : Option S) (message : String) (further : List String) :
    (debugCost solution message further : Action W (LocalSearch W S) S Unit).Beside := by
  refine Action.Beside.get.bind fun m => ?_
  split
  · refine Action.Beside.bind ?_ fun s => (Action.Beside.hook _).bind fun _ => .log _ _ _ _
    cases solution with
    | none => exact .fail _
    | some s => exact .pure s
  · exact .pure _

/-- Writing a record fails only if the cost that it shows does. -/
theorem unreported_of_debugCost {solution : Option S} {message : String} {further : List String}
    {cause : Failure} {m m' : Machine W (LocalSearch W S) S}
    (h : (debugCost solution message further).runOn m = (.error (.failed cause), m')) :
    Unreported m.level solution cause m'.past := by
  simp only [debugCost, Action.run_bind, Action.run_get] at h
  split at h
  · rename_i hlevel
    refine ⟨hlevel, ?_, ?_⟩
    all_goals
      rintro s rfl
      simp only [present, Action.run_bind, Action.run_pure, Action.run_hook_costs] at h
      cases hcost : Candidate.costs s with
      | ok v => simp [hcost, Action.run_log] at h
      | error cause' =>
        simp only [hcost, mapError_failed_error, Prod.mk.injEq, Except.error.injEq,
          Halt.failed.injEq] at h
        obtain ⟨rfl, rfl⟩ := h
        simp [Machine.past]
  · simp [Action.run_pure] at h

/-! ## Transitions -/

omit [Candidate S] in
theorem run_settle (initial : S) (m : Machine W (LocalSearch W S) S) :
    (settle initial).runOn m = (.ok (), m.chosen initial) := rfl

omit [Candidate S] in
theorem run_conclude (neighbor : S) (accepted : Bool) (m : Machine W (LocalSearch W S) S) :
    (conclude neighbor accepted).runOn m = (.ok (), m.judged neighbor accepted) := rfl

/-- All that can come of a start: the outcome of `Solver.enter` is on the list of `Entered`. -/
theorem entered_enter (m : Machine W (LocalSearch W S) S) :
    Entered m ((Solver.enter LocalSearch.method).runOn m) := by
  have hcalled := Machine.Aside.note m (e := .startCalled) rfl
  simp only [Solver.enter, LocalSearch.method, start, Action.run_bind, Action.run_note]
  rcases beside_createInitial.cases { m with transcript := m.transcript.push .startCalled } with
    ⟨cause, m₁, hmade, hasked⟩ | ⟨initial, m₁, hmade, hasked⟩ <;> simp only [hmade]
  · exact .failed (hcalled.trans hasked)
  · -- From here on the start has committed.
    simp only [run_settle]
    rcases (beside_debugCost (some initial) startMessage
      [Candidate.text initial]).cases (m₁.chosen initial) with
      ⟨cause, m₂, hdebug, hshown⟩ | ⟨u, m₂, hdebug, hshown⟩ <;> simp only [hdebug]
    · have hcost := unreported_of_debugCost hdebug
      rw [show (m₁.chosen initial).level = m.level from hasked.level] at hcost
      exact .unreported (hcalled.trans hasked) hshown hcost
    · have hcurrent : m₂.solver.inner.current = some initial := by rw [hshown.solver]; rfl
      simp only [Action.run_changeSolver, Action.run_get, Action.run_pure, hcurrent]
      exact .entered (hcalled.trans hasked) hshown

/-- All that can come of a step: the outcome of `Solver.stride` is on the list of `Strode`. -/
theorem strode_stride (m : Machine W (LocalSearch W S) S) :
    Strode m ((Solver.stride LocalSearch.method).runOn m) := by
  have hcalled := Machine.Aside.note m (e := .stepCalled) rfl
  simp only [Solver.stride, LocalSearch.method, move, Action.run_bind, Action.run_note,
    Action.run_get]
  split
  · -- The solver is not ready, and nobody is asked.
    exact .failed hcalled
  rename_i hphase
  have hready : m.solver.phase = .ready := by simpa using hphase
  simp only [Action.run_bind]
  rcases beside_createNeighbor.cases { m with transcript := m.transcript.push .stepCalled } with
    ⟨cause, m₁, hmade, hasked⟩ | ⟨neighbor, m₁, hmade, hasked⟩ <;> simp only [hmade]
  · exact .failed (hcalled.trans hasked)
  rcases (beside_decide neighbor).cases m₁ with
    ⟨cause, m₂, hdecided, hjudged⟩ | ⟨accepted, m₂, hdecided, hjudged⟩ <;> simp only [hdecided]
  · exact .failed (hcalled.trans (hasked.trans hjudged))
  have hbefore : m.Aside m₂ := hcalled.trans (hasked.trans hjudged)
  have hjudges : Judges m.solver neighbor accepted := by
    have := judges_of_decide hdecided
    rwa [hasked.solver] at this
  -- From here on the step has committed.
  simp only [run_conclude, Action.run_get]
  rcases (beside_debugCost (m₂.judged neighbor accepted).solver.inner.current
      (stepMessage accepted) []).cases (m₂.judged neighbor accepted) with
    ⟨cause, m₃, hdebug, hshown⟩ | ⟨u, m₃, hdebug, hshown⟩ <;> simp only [hdebug]
  · have hcost := unreported_of_debugCost hdebug
    rw [show (m₂.judged neighbor accepted).level = m.level from hbefore.level,
      ← hshown.solver] at hcost
    exact .unreported hready hjudges hbefore hshown hcost
  · simp only [Action.run_pure, Action.run_changeSolver]
    exact .strode hready hjudges hbefore hshown

end LocalSearch

end HillClimb
