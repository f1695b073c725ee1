import HillClimb.Proofs.Transitions

set_option autoImplicit false

/-! # The two halves of a transition

A transition first asks hooks, and nothing is committed as long as they are asked
(`LocalSearch.proposing`, `LocalSearch.deliberating`). Then it commits, writes a record for
debugging, and counts (`LocalSearch.opening`, `LocalSearch.closing`).

The second half asks nothing but the one cost that its record shows, and that only if such records
are written. So what it makes of a machine can be said outright: `run_opening_known` and
`run_closing_known` where the cost is known, `run_opening_quiet` and `run_closing_quiet` where no
such records are written. -/

namespace HillClimb

variable {W S α : Type} [Candidate S]

omit [Candidate S] in
theorem Action.eq_of_run {I : Type} {x y : Action W I S α} (h : ∀ m, x.runOn m = y.runOn m) :
    x = y :=
  funext h

/-! ## Work -/

section

variable {I : Type}

/-- The machine after work beside the solver, as it is `Machine.Aside` of what it was. -/
def Machine.worked (m : Machine W I S) (world : W) (generators : Generators)
    (work : List (Entry S)) : Machine W I S :=
  { m with world, generators, transcript := m.transcript ++ work.toArray }

omit [Candidate S] in
theorem Machine.past_worked (m : Machine W I S) (world : W) (generators : Generators)
    (work : List (Entry S)) : (m.worked world generators work).past = m.past ++ work := by
  simp [Machine.past, Machine.worked]

omit [Candidate S] in
theorem Machine.aside_worked (m : Machine W I S) (world : W) (generators : Generators)
    {work : List (Entry S)} (hwork : ∀ e ∈ work, e.isWork) :
    m.Aside (m.worked world generators work) :=
  ⟨rfl, rfl, rfl, work, hwork, m.past_worked world generators work⟩

/-- What a hook leaves in the transcript. -/
def HookState.questions (state : HookState W S) : List (Entry S) :=
  state.probes.toList.map Entry.probed

omit [Candidate S] in
theorem Entry.isWork_of_mem_map_probed {asked : List (Probe S)} {e : Entry S}
    (he : e ∈ asked.map Entry.probed) : e.isWork := by
  obtain ⟨p, -, rfl⟩ := List.mem_map.1 he
  rfl

omit [Candidate S] in
theorem HookState.isWork_of_mem_questions {state : HookState W S} {e : Entry S}
    (he : e ∈ state.questions) : e.isWork :=
  Entry.isWork_of_mem_map_probed he

omit [Candidate S] in
theorem Action.run_hook_worked (h : Hook W S α) (m : Machine W I S) :
    (Action.hook h).runOn m
      = let result := h.runAt ⟨m.world, m.generators, #[]⟩
        (result.1.mapError Halt.failed,
          m.worked result.2.world result.2.generators result.2.questions) := by
  rw [Action.run_hook]
  simp [Machine.worked, HookState.questions, ← Array.toList_map]

omit [Candidate S] in
theorem Action.run_note_worked (e : Entry S) (m : Machine W I S) :
    (Action.note e).runOn m = (.ok (), m.worked m.world m.generators [e]) := by
  rw [Action.run_note]
  simp [Machine.worked]

end

/-! ## Reports -/

/-- A record for debugging is written by `debugCost`, and a solution was asked what it costs for
    it. -/
def Machine.reported (m : Machine W (LocalSearch W S) S) (s : S) (message : String)
    (arguments : List (Option String)) : Machine W (LocalSearch W S) S :=
  { m with
    transcript := m.transcript.push (.probed (.costs s))
    journal := m.journal.push ⟨Level.debug, .search, message, arguments⟩ }

omit [Candidate S] in
theorem Machine.aside_reported (m : Machine W (LocalSearch W S) S) (s : S) (message : String)
    (arguments : List (Option String)) : m.Aside (m.reported s message arguments) :=
  ⟨rfl, rfl, rfl, [.probed (.costs s)], by simp [Entry.isWork],
    by simp [Machine.past, Machine.reported]⟩

namespace LocalSearch

variable {m : Machine W (LocalSearch W S) S} {solution : Option S} {message : String}
  {further : List String}

theorem run_debugCost_quiet (hlevel : Level.debug < m.level) :
    (debugCost solution message further).runOn m = (.ok (), m) := by
  simp [debugCost, Action.run_bind, Action.run_get, Action.run_pure, Int.not_le.2 hlevel]

theorem run_debugCost_known (hlevel : m.level ≤ Level.debug) {s : S} {v : Value}
    (hv : Candidate.costs s = .ok v) :
    (debugCost (some s) message further).runOn m
      = (.ok (), m.reported s message (v.toText? :: further.map some)) := by
  simp [debugCost, present, Action.run_bind, Action.run_get, Action.run_hook_costs,
    Action.run_log, hlevel, hv, Machine.reported]

theorem run_debugCost_failed (hlevel : m.level ≤ Level.debug) {s : S} {cause : Failure}
    (hcause : Candidate.costs s = .error cause) :
    (debugCost (some s) message further).runOn m
      = (.error (.failed cause), m.worked m.world m.generators [.probed (.costs s)]) := by
  simp [debugCost, present, Action.run_bind, Action.run_get, Action.run_hook_costs, hlevel,
    hcause, Machine.worked]

/-! ## Starts -/

/-- Calls for a start and asks for an initial solution: `start` up to its commit. -/
def proposing : Action W (LocalSearch W S) S S := do
  Action.note .startCalled
  createInitial

/-- Goes to an initial solution and gives the news of it: `start` from its commit on. -/
def opening (initial : S) : Action W (LocalSearch W S) S (News S) := do
  settle initial
  debugCost (some initial) startMessage [Candidate.text initial]
  Action.changeSolver fun s => { s with steps := 0, phase := .ready }
  return .started (some initial)

theorem enter_eq : Solver.enter LocalSearch.method
    = (proposing >>= opening : Action W (LocalSearch W S) S (News S)) := by
  simp only [Solver.enter, LocalSearch.method, start, proposing, bind_assoc]
  congr 1
  funext _
  congr 1
  funext initial
  -- What is told to the observers is the solution that was chosen.
  refine Action.eq_of_run fun m => ?_
  have hshown := (beside_debugCost (some initial) startMessage
    [Candidate.text initial]).cases (m.chosen initial)
  rcases hshown with ⟨cause, m', hdebug, hshown⟩ | ⟨u, m', hdebug, hshown⟩
  · simp only [opening, Action.run_bind, run_settle, hdebug]
  · have hcurrent : m'.solver.inner.current = some initial := by rw [hshown.solver]; rfl
    simp only [opening, Action.run_bind, run_settle, hdebug, Action.run_changeSolver,
      Action.run_get, Action.run_pure, hcurrent]

section

variable {initial : S}

theorem run_opening : (opening initial).runOn m
    = match (debugCost (some initial) startMessage
          [Candidate.text initial]).runOn (m.chosen initial) with
      | (.ok _, m') => (.ok (.started (some initial)), m'.opened)
      | (.error halt, m') => (.error halt, m') := by
  rw [opening, Action.run_bind, run_settle]
  dsimp only
  rw [Action.run_bind]
  rcases (debugCost (some initial) startMessage
    [Candidate.text initial]).runOn (m.chosen initial) with ⟨halt | u, m'⟩ <;> rfl

theorem run_opening_quiet (hlevel : Level.debug < m.level) :
    (opening initial).runOn m = (.ok (.started (some initial)), (m.chosen initial).opened) := by
  rw [run_opening, run_debugCost_quiet (m := m.chosen initial) hlevel]

theorem run_opening_known (hlevel : m.level ≤ Level.debug) {v : Value}
    (hv : Candidate.costs initial = .ok v) :
    (opening initial).runOn m
      = (.ok (.started (some initial)),
          (m.chosen initial).opened.reported initial startMessage
            [v.toText?, some (Candidate.text initial)]) := by
  rw [run_opening, run_debugCost_known (m := m.chosen initial) hlevel hv]
  rfl

theorem run_opening_failed (hlevel : m.level ≤ Level.debug) {cause : Failure}
    (hcause : Candidate.costs initial = .error cause) :
    (opening initial).runOn m
      = (.error (.failed cause),
          (m.chosen initial).worked m.world m.generators [.probed (.costs initial)]) := by
  rw [run_opening, run_debugCost_failed (m := m.chosen initial) hlevel hcause]
  rfl

end

/-! ## Steps -/

/-- Calls for a step, asks for a neighbour, and asks whether to accept it: `move` up to its
    commit. -/
def deliberating : Action W (LocalSearch W S) S (S × Bool) := do
  Action.note .stepCalled
  if (← get).solver.phase ≠ .ready then Action.fail .notStarted
  let neighbor ← createNeighbor
  let accepted ← decide neighbor
  return (neighbor, accepted)

/-- Goes to a neighbour or counts its rejection, and gives the news of it: `move` from its commit
    on. -/
def closing (neighbor : S) (accepted : Bool) : Action W (LocalSearch W S) S (News S) := do
  conclude neighbor accepted
  debugCost (← get).solver.inner.current (stepMessage accepted) []
  Action.changeSolver fun s => { s with steps := s.steps + 1 }
  return .stepped neighbor accepted

theorem stride_eq : Solver.stride LocalSearch.method
    = (deliberating >>= fun decision => closing decision.1 decision.2 :
        Action W (LocalSearch W S) S (News S)) := by
  simp only [Solver.stride, LocalSearch.method, move, deliberating, bind_assoc]
  congr 1
  funext _
  congr 1
  funext m
  split
  · refine Action.eq_of_run fun m => ?_
    simp only [Action.run_bind, Action.run_fail]
  · simp only [closing, bind_assoc, pure_bind]

section

variable {neighbor : S} {accepted : Bool}

omit [Candidate S] in
/-- Where the search is after a decision. -/
theorem current_judged_eq : (m.judged neighbor accepted).solver.inner.current
    = if accepted then some neighbor else m.solver.inner.current := by
  cases accepted <;> rfl

theorem run_closing : (closing neighbor accepted).runOn m
    = match (debugCost (if accepted then some neighbor else m.solver.inner.current)
          (stepMessage accepted) []).runOn (m.judged neighbor accepted) with
      | (.ok _, m') => (.ok (.stepped neighbor accepted), m'.counted)
      | (.error halt, m') => (.error halt, m') := by
  rw [closing, Action.run_bind, run_conclude]
  dsimp only
  rw [Action.run_bind, Action.run_get]
  dsimp only
  rw [current_judged_eq, Action.run_bind]
  rcases (debugCost _ (stepMessage accepted) []).runOn (m.judged neighbor accepted) with
    ⟨halt | u, m'⟩ <;> rfl

theorem run_closing_quiet (hlevel : Level.debug < m.level) :
    (closing neighbor accepted).runOn m
      = (.ok (.stepped neighbor accepted), (m.judged neighbor accepted).counted) := by
  rw [run_closing, run_debugCost_quiet (m := m.judged neighbor accepted) hlevel]

theorem run_closing_known (hlevel : m.level ≤ Level.debug) {s : S} {v : Value}
    (hs : (if accepted then some neighbor else m.solver.inner.current) = some s)
    (hv : Candidate.costs s = .ok v) :
    (closing neighbor accepted).runOn m
      = (.ok (.stepped neighbor accepted),
          (m.judged neighbor accepted).counted.reported s (stepMessage accepted) [v.toText?]) := by
  rw [run_closing, hs, run_debugCost_known (m := m.judged neighbor accepted) hlevel hv]
  rfl

theorem run_closing_failed (hlevel : m.level ≤ Level.debug) {s : S} {cause : Failure}
    (hs : (if accepted then some neighbor else m.solver.inner.current) = some s)
    (hcause : Candidate.costs s = .error cause) :
    (closing neighbor accepted).runOn m
      = (.error (.failed cause),
          (m.judged neighbor accepted).worked m.world m.generators [.probed (.costs s)]) := by
  rw [run_closing, hs, run_debugCost_failed (m := m.judged neighbor accepted) hlevel hcause]
  rfl

end

end LocalSearch

end HillClimb
