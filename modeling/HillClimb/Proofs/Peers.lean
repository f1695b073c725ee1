import HillClimb.Proofs.Halves
import HillClimb.Proofs.SideBySide

set_option autoImplicit false

/-! # Searches that ask alike

Two searches that have the same hooks, the same world and the same generators (`Machine.Peers`) ask
the same and are answered the same, as long as nothing is committed (`LocalSearch.Asking`). If they
also write the same records (`LocalSearch.Reporting`) and are seen alike, then they commit alike,
too (`LocalSearch.Congruent`). The halves of a transition are done alike, first up to the commit
(`Asking.proposing`, `Asking.deliberating`), then from it on. -/

namespace HillClimb

variable {W S α : Type} [Candidate S]

theorem Action.Grows.opening (initial : S) :
    Grows (LocalSearch.opening initial : Action W (LocalSearch W S) S (News S)) :=
  .bind (fun m => .of_unseen (m.unseen_chosen initial)) fun _ =>
    .bind (.beside (LocalSearch.beside_debugCost _ _ _)) fun _ =>
      .bind (fun _ => .of_past rfl (List.append_nil _).symm) fun _ => .pure _

theorem Action.Grows.closing (neighbor : S) (accepted : Bool) :
    Grows (LocalSearch.closing neighbor accepted : Action W (LocalSearch W S) S (News S)) :=
  .bind (fun m => .of_unseen (m.unseen_judged neighbor accepted)) fun _ => .bind .get fun _ =>
    .bind (.beside (LocalSearch.beside_debugCost _ _ _)) fun _ =>
      .bind (fun _ => .of_past rfl (List.append_nil _).symm) fun _ => .pure _

/-- The searches have the same hooks, which find the same. -/
structure Machine.Peers (m n : Machine W (LocalSearch W S) S) : Prop where
  world : n.world = m.world
  generators : n.generators = m.generators
  name : n.solver.name = m.solver.name
  generator : n.solver.generator = m.solver.generator
  inner : n.solver.inner = { m.solver.inner with
    current := n.solver.inner.current
    stagnation := n.solver.inner.stagnation }

namespace LocalSearch

/-- An acceptance rule reads the same `AskingSolver` of searches that have the same hooks and are
    seen alike. -/
theorem asking_eq {m n : Machine W (LocalSearch W S) S} (h : m.Peers n)
    (hview : LocalSearch.method.view n.solver = LocalSearch.method.view m.solver) :
    asking n.solver = asking m.solver := by
  have hphase : n.solver.phase = m.solver.phase := congrArg View.phase hview
  have hsteps : n.solver.steps = m.solver.steps := congrArg View.steps hview
  have hcurrent : n.solver.inner.current = m.solver.inner.current := congrArg View.current hview
  have hstagnation : n.solver.inner.stagnation = m.solver.inner.stagnation :=
    Option.some.inj (congrArg View.stagnation hview)
  have hcomparator : n.solver.inner.comparator = m.solver.inner.comparator := by rw [h.inner]
  simp only [asking, hphase, hsteps, hcurrent, hstagnation, hcomparator, h.generator]

/-! ## Before the commit -/

/-- Searches that go together ask the same hooks, and go together whatever the hooks do: they are
    `Peers`, and `P` outlasts work beside the solvers. -/
structure Asking (P : Machine W (LocalSearch W S) S → Machine W (LocalSearch W S) S → Prop) :
    Prop where
  peers : ∀ m n, P m n → m.Peers n
  worked : ∀ m n world generators work, (∀ e ∈ work, Entry.isWork e) → P m n →
    P (m.worked world generators work) (n.worked world generators work)

namespace Asking

variable {P : Machine W (LocalSearch W S) S → Machine W (LocalSearch W S) S → Prop}
  {pace : Pace S}

omit [Candidate S] in
theorem hook (hP : Asking P) (h : Hook W S α) :
    Action.InStep pace P P (fun _ => Action.hook h) (Action.hook h) fun _ => P := by
  refine ⟨fun _ => .beside (.hook h), fun m n hm => .of_agree (Action.Beside.hook h m).2 ?_⟩
  intro _ _
  rw [Action.run_hook_worked, Action.run_hook_worked, (hP.peers m n hm).world,
    (hP.peers m n hm).generators]
  exact .of_eq rfl (hP.worked m n _ _ _ (fun _ he => HookState.isWork_of_mem_questions he) hm)

omit [Candidate S] in
theorem note (hP : Asking P) {e : Entry S} (he : e.isWork) :
    Action.InStep pace P P (fun _ => (Action.note e : Action W (LocalSearch W S) S Unit))
      (Action.note e) fun _ => P := by
  refine ⟨fun _ => .beside (.note he), fun m n hm => .of_agree (Action.Beside.note he m).2 ?_⟩
  intro _ _
  rw [Action.run_note_worked, Action.run_note_worked, (hP.peers m n hm).world,
    (hP.peers m n hm).generators]
  exact .returned (hP.worked m n _ _ _ (by simpa using he) hm)

omit [Candidate S] in
theorem requireFactory (hP : Asking P) :
    Action.InStep pace P P
      (fun _ => (requireFactory : Action W (LocalSearch W S) S (Factory W S)))
      LocalSearch.requireFactory fun _ => P := by
  refine ⟨fun _ => .beside beside_requireFactory, fun m n hm => .get ?_⟩
  dsimp only
  rw [(hP.peers m n hm).inner, (hP.peers m n hm).name]
  cases m.solver.inner.factory with
  | none => exact (Action.InStep.fail _ fun _ _ h => h).abreast m n hm
  | some factory => exact (Action.InStep.pure _ fun _ _ h => h).abreast m n hm

omit [Candidate S] in
/-- Both searches are offered the same initial solution. -/
theorem proposing (hP : Asking P) :
    Action.InStep pace P P (fun _ => (proposing : Action W (LocalSearch W S) S S))
      LocalSearch.proposing fun _ => P := by
  refine (hP.note rfl).bind fun _ => ⟨fun _ => .beside beside_createInitial, fun m n hm => .get ?_⟩
  dsimp only
  rw [(hP.peers m n hm).inner, (hP.peers m n hm).generator]
  cases m.solver.inner.initialMaker with
  | some make => exact (hP.hook make).abreast m n hm
  | none =>
    exact (hP.requireFactory.bind fun factory => (hP.note rfl).bind fun _ =>
      hP.hook _).abreast m n hm

section

variable (hview : ∀ m n, P m n →
  LocalSearch.method.view n.solver = LocalSearch.method.view m.solver)

include hview

theorem createNeighbor (hP : Asking P) :
    Action.InStep pace P P (fun _ => (createNeighbor : Action W (LocalSearch W S) S S))
      LocalSearch.createNeighbor fun _ => P := by
  refine ⟨fun _ => .beside beside_createNeighbor, fun m n hm => .get ?_⟩
  have hsteps : n.solver.steps = m.solver.steps := congrArg View.steps (hview m n hm)
  have hcurrent : n.solver.inner.current = m.solver.inner.current :=
    congrArg View.current (hview m n hm)
  dsimp only
  rw [(hP.peers m n hm).inner, (hP.peers m n hm).generator, hsteps, hcurrent]
  cases m.solver.inner.neighborMaker with
  | some make => exact (hP.hook _).abreast m n hm
  | none =>
    exact (hP.requireFactory.bind fun factory => (hP.note rfl).bind fun _ =>
      hP.hook _).abreast m n hm

theorem decide (hP : Asking P) (neighbor : S) :
    Action.InStep pace P P
      (fun _ => (decide neighbor : Action W (LocalSearch W S) S Bool))
      (LocalSearch.decide neighbor) fun _ => P := by
  refine ⟨fun _ => .beside (beside_decide neighbor), fun m n hm => .get ?_⟩
  have hcurrent : n.solver.inner.current = m.solver.inner.current :=
    congrArg View.current (hview m n hm)
  dsimp only
  rw [asking_eq (hP.peers m n hm) (hview m n hm), (hP.peers m n hm).inner, hcurrent]
  cases m.solver.inner.acceptance with
  | none => exact (Action.InStep.fail _ fun _ _ h => h).abreast m n hm
  | some rule => exact ((hP.note rfl).bind fun _ => hP.hook _).abreast m n hm

/-- Both searches are offered the same neighbour, and decide on it alike. -/
theorem deliberating (hP : Asking P) :
    Action.InStep pace P P (fun _ => (deliberating : Action W (LocalSearch W S) S (S × Bool)))
      LocalSearch.deliberating fun _ => P := by
  have hasked : Action.InStep pace P P
      (fun _ => do
        let neighbor ← LocalSearch.createNeighbor
        let accepted ← LocalSearch.decide neighbor
        return (neighbor, accepted) : Nat → Action W (LocalSearch W S) S (S × Bool))
      (do
        let neighbor ← LocalSearch.createNeighbor
        let accepted ← LocalSearch.decide neighbor
        return (neighbor, accepted)) fun _ => P :=
    (hP.createNeighbor hview).bind fun neighbor => (hP.decide hview neighbor).bind fun accepted =>
      .pure _ fun _ _ h => h
  unfold LocalSearch.deliberating
  refine (hP.note rfl).bind fun _ => .get (fun m n hm => ?_) fun spare m => ?_
  · have hphase : n.solver.phase = m.solver.phase := congrArg View.phase (hview m n hm)
    rw [hphase]
    by_cases hready : m.solver.phase ≠ .ready
    · simp only [if_pos hready]
      exact (Action.InStep.fail _ fun _ _ h => h).bind fun _ => hasked
    · simp only [if_neg hready]
      exact hasked
  · split
    · exact .bind (.fail _) fun _ => hasked.grows spare
    · exact hasked.grows spare

end

end Asking

/-! ## Records -/

/-- Searches that go together write the same records by `debugCost`, and go together after that. -/
structure Reporting (P : Machine W (LocalSearch W S) S → Machine W (LocalSearch W S) S → Prop) :
    Prop extends Asking P where
  level : ∀ m n, P m n → n.level = m.level
  journaled : ∀ m n journal journal', P m n → P { m with journal } { n with journal := journal' }

section

variable {P P' Q : Machine W (LocalSearch W S) S → Machine W (LocalSearch W S) S → Prop}
  {pace : Pace S}

omit [Candidate S] in
theorem Reporting.logged (hP : Reporting P) (level : Int) (source : LogSource)
    (message message' : String) (arguments arguments' : List (Option String))
    {m n : Machine W (LocalSearch W S) S} (hm : P m n) :
    P ((Action.log level source message arguments).runOn m).2
      ((Action.log level source message' arguments').runOn n).2 := by
  have hlevel := hP.level m n hm
  rw [Action.run_log, Action.run_log]
  dsimp only
  by_cases hwritten : m.level ≤ level
  · rw [if_pos hwritten, if_pos (hlevel ▸ hwritten)]
    exact hP.journaled m n _ _ hm
  · rw [if_neg hwritten, if_neg (hlevel ▸ hwritten)]
    exact hm

omit [Candidate S] in
theorem Reporting.log (hP : Reporting P) (level : Int) (source : LogSource)
    (message message' : String) (arguments arguments' : List (Option String)) :
    Action.InStep pace P P
      (fun _ => (Action.log level source message arguments : Action W (LocalSearch W S) S Unit))
      (Action.log level source message' arguments') fun _ => P :=
  .of_run (fun _ => rfl) (fun _ => rfl) (.beside (.log _ _ _ _)) fun _ _ hm _ =>
    hP.logged level source message message' arguments arguments' hm

theorem Reporting.debugCost (hP : Reporting P) (solution : Option S) (message : String)
    (further : List String) :
    Action.InStep pace P P
      (fun _ => (debugCost solution message further : Action W (LocalSearch W S) S Unit))
      (LocalSearch.debugCost solution message further) fun _ => P := by
  have hpresent : Action.InStep pace P P
      (fun _ => (present solution : Action W (LocalSearch W S) S S)) (present solution)
      fun _ => P := by
    cases solution with
    | none => exact .fail _ fun _ _ h => h
    | some s => exact .pure s fun _ _ h => h
  refine ⟨fun _ => .beside (beside_debugCost solution message further), fun m n hm => .get ?_⟩
  rw [hP.level m n hm]
  split
  · exact (hpresent.bind fun s => (hP.hook _).bind fun cost => hP.log ..).abreast m n hm
  · exact (Action.InStep.pure _ fun _ _ h => h).abreast m n hm

/-- Both searches go to the initial solution. -/
theorem Reporting.opening (hP : Reporting P) (initial : S)
    (hchosen : ∀ m n, P' m n → P (m.chosen initial) (n.chosen initial))
    (hopened : ∀ m n, P m n → Q m.opened n.opened) :
    Action.InStep pace P P'
      (fun _ => (opening initial : Action W (LocalSearch W S) S (News S)))
      (LocalSearch.opening initial) fun _ => Q := by
  have hsettled : Action.InStep pace P P'
      (fun _ => (settle initial : Action W (LocalSearch W S) S Unit)) (settle initial)
      fun _ => P :=
    .of_run (run_settle initial) (run_settle initial)
      (fun m => .of_unseen (m.unseen_chosen initial)) fun m n hm _ => hchosen m n hm
  refine hsettled.bind fun _ => (hP.debugCost _ _ _).bind fun _ => .bind (R := fun _ => Q) ?_
    fun _ => .pure _ fun _ _ h => h
  exact .of_run (fun _ => rfl) (fun _ => rfl) (fun m => .of_past rfl (List.append_nil _).symm)
    fun m n hm _ => hopened m n hm

end

/-! ## Commits -/

/-- Searches that go together commit alike, and go together after all that a transition does. -/
structure Congruent (P : Machine W (LocalSearch W S) S → Machine W (LocalSearch W S) S → Prop) :
    Prop extends Reporting P where
  view : ∀ m n, P m n → LocalSearch.method.view n.solver = LocalSearch.method.view m.solver
  chosen : ∀ m n initial, P m n → P (m.chosen initial) (n.chosen initial)
  judged : ∀ m n neighbor accepted, P m n → P (m.judged neighbor accepted)
    (n.judged neighbor accepted)
  opened : ∀ m n, P m n → P m.opened n.opened
  counted : ∀ m n, P m n → P m.counted n.counted

namespace Congruent

variable {P : Machine W (LocalSearch W S) S → Machine W (LocalSearch W S) S → Prop}
  {pace : Pace S}

theorem enter (hP : Congruent P) :
    Action.InStep pace P P (fun _ => Solver.enter LocalSearch.method)
      (Solver.enter LocalSearch.method) fun _ => P := by
  rw [enter_eq]
  exact hP.proposing.bind fun initial =>
    hP.opening initial (fun m n hm => hP.chosen m n initial hm) hP.opened

theorem stride (hP : Congruent P) :
    Action.InStep pace P P (fun _ => Solver.stride LocalSearch.method)
      (Solver.stride LocalSearch.method) fun _ => P := by
  rw [stride_eq]
  refine (hP.deliberating hP.view).bind fun ⟨neighbor, accepted⟩ => ?_
  have hconcluded : Action.InStep pace P P
      (fun _ => (conclude neighbor accepted : Action W (LocalSearch W S) S Unit))
      (conclude neighbor accepted) fun _ => P :=
    .of_run (run_conclude neighbor accepted) (run_conclude neighbor accepted)
      (fun m => .of_unseen (m.unseen_judged neighbor accepted))
      fun m n hm _ => hP.judged m n neighbor accepted hm
  have hcounted : Action.InStep pace P P
      (fun _ => (Action.changeSolver fun s => { s with steps := s.steps + 1 } :
        Action W (LocalSearch W S) S Unit))
      (Action.changeSolver fun s => { s with steps := s.steps + 1 }) fun _ => P :=
    .of_run (fun _ => rfl) (fun _ => rfl) (fun m => .of_past rfl (List.append_nil _).symm)
      fun m n hm _ => hP.counted m n hm
  refine hconcluded.bind fun _ => .get (fun m n hm => ?_) fun _ m => ?_
  · have hcurrent : n.solver.inner.current = m.solver.inner.current :=
      congrArg View.current (hP.view m n hm)
    rw [hcurrent]
    exact (hP.debugCost _ _ _).bind fun _ => hcounted.bind fun _ => .pure _ fun _ _ h => h
  · exact .bind (.beside (beside_debugCost _ _ _)) fun _ =>
      (hcounted.grows 0).bind fun _ => .pure _

end Congruent

end LocalSearch

/-! ## Recordings -/

namespace Recording

/-- The news of a start wipe out what was recorded before. -/
theorem run_record_started (current solution : Option S) (t t' : Trajectory) :
    (record current (.started solution)).run ⟨t', #[]⟩
      = (record current (.started solution)).run ⟨t, #[]⟩ := by
  simp only [record, run_bind_state, run_change]

/-- What is asked for a recording, and whether that fails, does not depend on what was recorded
    before. -/
theorem run_record_congr (current : Option S) (news : News S) (t t' : Trajectory) :
    ((record current news).run ⟨t', #[]⟩).1 = ((record current news).run ⟨t, #[]⟩).1 ∧
      ((record current news).run ⟨t', #[]⟩).2.probes
        = ((record current news).run ⟨t, #[]⟩).2.probes := by
  cases news with
  | started solution =>
    rw [run_record_started current solution t t']
    exact ⟨rfl, rfl⟩
  | stepped neighbor accepted =>
    simp only [record, run_bind_state, run_change, run_costs]
    cases Candidate.costs neighbor with
    | error cause => exact ⟨rfl, rfl⟩
    | ok x =>
      cases current with
      | none => exact ⟨rfl, rfl⟩
      | some s =>
        simp only [run_costs]
        cases Candidate.costs s <;> exact ⟨rfl, rfl⟩

/-- A recording asks for nothing but `costs`, and fails only where one of them does, or where there
    is no solution to ask about. -/
theorem probes_of_record (current : Option S) (news : News S) (t : Trajectory) :
    ∃ asked : List S,
      ((record current news).run ⟨t, #[]⟩).2.probes = (asked.map Probe.costs).toArray ∧
      ((∀ s ∈ asked, ∃ v, Candidate.costs s = .ok v) → current.isSome → news ≠ .started none →
        ((record current news).run ⟨t, #[]⟩).1 = .ok ()) := by
  cases news with
  | started solution =>
    simp only [record, run_bind_state, run_change]
    cases solution with
    | none => exact ⟨[], rfl, fun _ _ hne => absurd rfl hne⟩
    | some s =>
      refine ⟨[s], ?_, fun hknown _ _ => ?_⟩
      · simp only [run_costs]
        cases Candidate.costs s <;> rfl
      · obtain ⟨v, hv⟩ := hknown s (by simp)
        simp only [run_costs, hv]
  | stepped neighbor accepted =>
    simp only [record, run_bind_state, run_change, run_costs]
    cases hx : Candidate.costs neighbor with
    | error cause =>
      refine ⟨[neighbor], rfl, fun hknown => ?_⟩
      obtain ⟨v, hv⟩ := hknown neighbor (by simp)
      rw [hx] at hv
      cases hv
    | ok x =>
      cases current with
      | none => exact ⟨[neighbor], rfl, fun _ hsome => by simp at hsome⟩
      | some s =>
        refine ⟨[neighbor, s], ?_, fun hknown _ _ => ?_⟩
        · simp only [run_costs]
          cases Candidate.costs s <;> rfl
        · obtain ⟨v, hv⟩ := hknown s (by simp)
          simp only [run_costs, hv]

end Recording

section

variable (m : Machine W (LocalSearch W S) S) (o : ObserverId) (news : News S)

theorem Action.result_record : ((record LocalSearch.method o news).runOn m).1
    = ((Recording.record m.solver.inner.current news).run
        ⟨m.recordings.of o, #[]⟩).1.mapError Halt.failed := rfl

theorem Action.past_record : ((record LocalSearch.method o news).runOn m).2.past
    = m.past ++ ((Recording.record m.solver.inner.current news).run
        ⟨m.recordings.of o, #[]⟩).2.probes.toList.map Entry.probed := by
  rw [run_record]
  simp [Machine.past, LocalSearch.method]

end

end HillClimb
