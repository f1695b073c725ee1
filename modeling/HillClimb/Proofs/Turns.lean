import HillClimb.Proofs.Transitions

set_option autoImplicit false

/-! # Turns

A *turn* is a start or a step of a local search, from the moment when it is called to the moment
when its observers are about to be told (`Turn`); what becomes of it depends on what its hooks
answer. The *landmarks* of a history are the calls of turns, the questions put to the factory and to
the acceptance rule, and the commits (`Entry.isLandmark`).

A turn writes one block of landmarks, which tells how far it came (`Turn.Writes`, by `writes_start`
and `writes_step`), and nothing else that happens to a search writes any (`Machine.Idle`). -/

namespace HillClimb

variable {W I S α β : Type}

/-! ## Landmarks -/

/-- Whether the entry tells of the call of a turn, of the factory or the acceptance rule being
    asked, or of a commit. -/
def Entry.isLandmark : Entry S → Bool
  | .startCalled => true
  | .stepCalled => true
  | .initialAsked => true
  | .neighborAsked _ => true
  | .acceptanceAsked .. => true
  | .started _ => true
  | .decided .. => true
  | _ => false

theorem Entry.isLandmark_of_sight? {e : Entry S} {seen : Sight S} (h : e.sight? = some seen) :
    e.isLandmark = false := by
  cases e <;> simp_all [sight?, isLandmark]

namespace Machine

/-- The landmarks of the history, in order. -/
def landmarks (m : Machine W I S) : List (Entry S) := m.past.filter Entry.isLandmark

theorem mem_landmarks {m : Machine W I S} {e : Entry S} :
    e ∈ m.landmarks ↔ e ∈ m.past ∧ e.isLandmark :=
  List.mem_filter

/-- The machine with one more entry in its transcript. -/
def noted (m : Machine W I S) (e : Entry S) : Machine W I S :=
  { m with transcript := m.transcript.push e }

@[simp] theorem solver_noted (m : Machine W I S) (e : Entry S) : (m.noted e).solver = m.solver :=
  rfl

theorem run_noted (m : Machine W I S) (e : Entry S) :
    (Action.note e).runOn m = (.ok (), m.noted e) := rfl

theorem landmarks_noted (m : Machine W I S) {e : Entry S} (he : e.isLandmark) :
    (m.noted e).landmarks = m.landmarks ++ [e] := by
  simp [landmarks, past, noted, he]

/-- Between turns a search is neither started nor does it step, and it stays what it was made
    (`Solver.blank`), but observers may join and the count of rejections may be overwritten. -/
structure Idle (m m' : Machine W (LocalSearch W S) S) : Prop where
  blank : m'.solver.blank = m.solver.blank
  phase : m'.solver.phase = m.solver.phase
  steps : m'.solver.steps = m.solver.steps
  current : m'.solver.inner.current = m.solver.inner.current
  past : ∃ l : List (Entry S), (∀ e ∈ l, e.isLandmark = false) ∧ m'.past = m.past ++ l

namespace Idle

variable {m m₁ m₂ : Machine W (LocalSearch W S) S}

theorem refl (m : Machine W (LocalSearch W S) S) : m.Idle m :=
  ⟨rfl, rfl, rfl, rfl, [], by simp, by simp⟩

theorem trans (h : m.Idle m₁) (h' : m₁.Idle m₂) : m.Idle m₂ := by
  obtain ⟨l, hl, hpast⟩ := h.past
  obtain ⟨l', hl', hpast'⟩ := h'.past
  refine ⟨h'.blank.trans h.blank, h'.phase.trans h.phase, h'.steps.trans h.steps,
    h'.current.trans h.current, l ++ l', ?_, ?_⟩
  · intro e he
    exact (List.mem_append.1 he).elim (hl e) (hl' e)
  · rw [hpast', hpast, List.append_assoc]

/-- Notes that are no landmarks are idle. -/
theorem of_past (hsolver : m₁.solver = m.solver) {l : List (Entry S)}
    (hl : ∀ e ∈ l, e.isLandmark = false) (hpast : m₁.past = m.past ++ l) : m.Idle m₁ := by
  refine ⟨?_, ?_, ?_, ?_, l, hl, hpast⟩ <;> rw [hsolver]

theorem landmarks (h : m.Idle m₁) : m₁.landmarks = m.landmarks := by
  obtain ⟨l, hl, hpast⟩ := h.past
  have hnone : l.filter Entry.isLandmark = [] := by simpa using hl
  rw [Machine.landmarks, hpast, List.filter_append, hnone, List.append_nil]
  rfl

end Idle

end Machine

namespace Action

/-- However it ends, the action is `Idle`. -/
def Idles (x : Action W (LocalSearch W S) S α) : Prop :=
  ∀ m : Machine W (LocalSearch W S) S, m.Idle (x.runOn m).2

namespace Idles

theorem pure (a : α) : Idles (pure a : Action W (LocalSearch W S) S α) := fun m => .refl m

theorem throw (h : Halt) : Idles (throw h : Action W (LocalSearch W S) S α) := fun m => .refl m

theorem fail (cause : Failure) : Idles (Action.fail cause : Action W (LocalSearch W S) S α) :=
  .throw (.failed cause)

theorem get : Idles (get : Action W (LocalSearch W S) S (Machine W (LocalSearch W S) S)) :=
  fun m => .refl m

theorem bind {x : Action W (LocalSearch W S) S α} {f : α → Action W (LocalSearch W S) S β}
    (hx : Idles x) (hf : ∀ a, Idles (f a)) : Idles (x >>= f) := by
  intro m
  have hfirst := hx m
  rw [run_bind]
  rcases hxm : x.runOn m with ⟨h | a, m'⟩ <;> rw [hxm] at hfirst
  · exact hfirst
  · exact hfirst.trans (hf a m')

theorem attempt {x : Action W (LocalSearch W S) S α} (hx : Idles x) : Idles (attempt x) := by
  intro m
  have h := hx m
  rw [run_attempt]
  rcases hxm : x.runOn m with ⟨(cause | _) | a, m'⟩ <;> rw [hxm] at h <;> exact h

theorem note {e : Entry S} (he : e.isLandmark = false) :
    Idles (note e : Action W (LocalSearch W S) S Unit) := by
  intro m
  refine .of_past rfl (l := [e]) ?_ Array.toList_push
  simpa using he

/-- Whoever looks is idle. -/
theorem noteSeen (method : Method W (LocalSearch W S) S) {entry : Sight S → Entry S}
    (hentry : ∀ seen, (entry seen).sight? = some seen) : Idles (method.noteSeen entry) := by
  intro m
  refine .of_past rfl (l := [entry (method.sight m)]) ?_ Array.toList_push
  simpa using Entry.isLandmark_of_sight? (hentry _)

theorem hook (h : Hook W S α) : Idles (Action.hook h : Action W (LocalSearch W S) S α) := by
  intro m
  refine .of_past rfl
    (l := ((h.runAt ⟨m.world, m.generators, #[]⟩).2.probes.map Entry.probed).toList) ?_
    Array.toList_append
  simp [Entry.isLandmark]

theorem log (level : Int) (source : LogSource) (message : String)
    (arguments : List (Option String)) :
    Idles (log level source message arguments : Action W (LocalSearch W S) S Unit) := by
  intro m
  rw [run_log]
  dsimp only
  split
  · exact .of_past rfl (l := []) (by simp) (by simp [Machine.past])
  · exact .refl m

theorem record [Candidate S] (method : Method W (LocalSearch W S) S) (o : ObserverId)
    (news : News S) : Idles (record method o news) := by
  intro m
  refine .of_past rfl (l := ((((Recording.record (method.current m.solver.inner) news).run
    ⟨m.recordings.of o, #[]⟩).2.probes.map Entry.probed).toList)) ?_ Array.toList_append
  simp [Entry.isLandmark]

theorem observe (o : ObserverId) :
    Idles (changeSolver fun s => { s with observers := s.observers.push o } :
      Action W (LocalSearch W S) S Unit) :=
  fun _ => ⟨rfl, rfl, rfl, rfl, [], by simp, by simp [Machine.past, run_changeSolver]⟩

theorem overwrite [Candidate S] (n : Int) :
    Idles (changeSolver fun s => { s with inner := LocalSearch.method.setStagnation n s.inner } :
      Action W (LocalSearch W S) S Unit) :=
  fun _ => ⟨rfl, rfl, rfl, rfl, [], by simp, by simp [Machine.past, run_changeSolver]⟩

theorem limitReached (limit : Option Value) (laps : Nat) :
    Idles (Solver.limitReached limit laps : Action W (LocalSearch W S) S Bool) := by
  unfold Solver.limitReached
  split
  · exact .pure _
  · split
    · exact .pure _
    · exact .fail _

theorem debugCost [Candidate S] (solution : Option S) (message : String) (further : List String) :
    Idles (LocalSearch.debugCost solution message further : Action W (LocalSearch W S) S Unit) := by
  refine Idles.get.bind fun m => ?_
  split
  · refine Idles.bind ?_ fun s => (Idles.hook _).bind fun _ => .log _ _ _ _
    cases solution with
    | none => exact .fail _
    | some s => exact .pure s
  · exact .pure _

end Idles

end Action

/-! ## Turns and what they write -/

/-- A start or a step, on the machine as it was when it was called. -/
inductive Turn (W S : Type) where
  | start (before : Machine W (LocalSearch W S) S)
  | step (before : Machine W (LocalSearch W S) S)

namespace Turn

def before : Turn W S → Machine W (LocalSearch W S) S
  | .start m => m
  | .step m => m

/-- What comes of the turn, before any observer is told: the outcome of `Solver.enter` or of
    `Solver.stride`. -/
def outcome [Candidate S] :
    Turn W S → Except Halt (News S) × Machine W (LocalSearch W S) S
  | .start m => (Solver.enter LocalSearch.method).runOn m
  | .step m => (Solver.stride LocalSearch.method).runOn m

end Turn

/-! ## The hooks of a turn -/

namespace Hook

/-- What a hook answers on a machine, at the `HookState` that is made for it. -/
def answer (h : Hook W S α) (m : Machine W I S) : Except Failure α :=
  (h.runAt ⟨m.world, m.generators, #[]⟩).1

/-- What a hook makes of a machine. -/
def wake (h : Hook W S α) (m : Machine W I S) : Machine W I S := ((Action.hook h).runOn m).2

theorem run_of_failed {h : Hook W S α} {m : Machine W I S} {cause : Failure}
    (hm : h.answer m = .error cause) :
    (Action.hook h).runOn m = (.error (.failed cause), h.wake m) :=
  Prod.ext (congrArg (Except.mapError Halt.failed) hm) rfl

theorem run_of_answered {h : Hook W S α} {m : Machine W I S} {a : α} (hm : h.answer m = .ok a) :
    (Action.hook h).runOn m = (.ok a, h.wake m) :=
  Prod.ext (congrArg (Except.mapError Halt.failed) hm) rfl

/-- A hook that was asked leaves one landmark, which is that it was asked. -/
theorem landmarks_wake (h : Hook W S α) (m : Machine W (LocalSearch W S) S) {e : Entry S}
    (he : e.isLandmark) : (h.wake (m.noted e)).landmarks = m.landmarks ++ [e] := by
  rw [← m.landmarks_noted he]
  exact (Action.Idles.hook h (m.noted e)).landmarks

end Hook

/-- Asks the factory for a neighbour of where a solver is. -/
def Factory.neighborFor (factory : Factory W S) (s : Solver (LocalSearch W S)) : Hook W S S :=
  factory.createNeighbor s.inner.current s.generator

/-- Asks the rule whether a solver is to go to the neighbour. -/
def Acceptance.acceptsFor [Candidate S] (rule : Acceptance W S) (s : Solver (LocalSearch W S))
    (neighbor : S) : Hook W S Bool :=
  rule.accepts neighbor s.inner.current (LocalSearch.asking s)

namespace Machine

/-- The factory was asked for an initial solution. -/
def begun (m : Machine W (LocalSearch W S) S) (factory : Factory W S) :
    Machine W (LocalSearch W S) S :=
  (factory.createInitial m.solver.generator).wake ((m.noted .startCalled).noted .initialAsked)

/-- The factory was asked for a neighbour. -/
def offered (m : Machine W (LocalSearch W S) S) (factory : Factory W S) :
    Machine W (LocalSearch W S) S :=
  (factory.neighborFor m.solver).wake
    ((m.noted .stepCalled).noted (.neighborAsked m.solver.inner.current))

/-- The acceptance rule was asked about the neighbour that the factory had made. -/
def advised [Candidate S] (m : Machine W (LocalSearch W S) S) (factory : Factory W S)
    (rule : Acceptance W S) (neighbor : S) : Machine W (LocalSearch W S) S :=
  (rule.acceptsFor m.solver neighbor).wake ((m.offered factory).noted
    (.acceptanceAsked rule.isCustom neighbor m.solver.inner.current))

variable (m : Machine W (LocalSearch W S) S) (factory : Factory W S)

theorem landmarks_begun :
    (m.begun factory).landmarks = m.landmarks ++ [.startCalled, .initialAsked] := by
  rw [begun, Hook.landmarks_wake _ _ rfl, landmarks_noted _ rfl, List.append_assoc]
  rfl

theorem landmarks_offered :
    (m.offered factory).landmarks
      = m.landmarks ++ [.stepCalled, .neighborAsked m.solver.inner.current] := by
  rw [offered, Hook.landmarks_wake _ _ rfl, landmarks_noted _ rfl, List.append_assoc]
  rfl

theorem landmarks_advised [Candidate S] (rule : Acceptance W S) (neighbor : S) :
    (m.advised factory rule neighbor).landmarks
      = m.landmarks ++ [.stepCalled, .neighborAsked m.solver.inner.current,
          .acceptanceAsked rule.isCustom neighbor m.solver.inner.current] := by
  rw [advised, Hook.landmarks_wake _ _ rfl, landmarks_offered, List.append_assoc]
  rfl

theorem landmarks_chosen (initial : S) :
    (m.chosen initial).landmarks = m.landmarks ++ [.started initial] := by
  rw [landmarks, past_chosen, List.filter_append]
  rfl

theorem landmarks_judged (neighbor : S) (accepted : Bool) :
    (m.judged neighbor accepted).landmarks = m.landmarks ++ [.decided neighbor accepted] := by
  rw [landmarks, past_judged, List.filter_append]
  rfl

theorem landmarks_opened : m.opened.landmarks = m.landmarks := rfl

theorem landmarks_counted : m.counted.landmarks = m.landmarks := rfl

end Machine

namespace LocalSearch

/-- The search makes its solutions by a `Factory` only, and has an acceptance rule. -/
structure Plain (s : LocalSearch W S) : Prop where
  initialMaker : s.initialMaker = none
  neighborMaker : s.neighborMaker = none
  acceptance : ∃ rule, s.acceptance = some rule

theorem plain_new (factory : Option (Factory W S)) (comparator : Option (Comparator W S))
    (acceptance : Option (Acceptance W S)) : (new factory comparator acceptance).Plain :=
  ⟨rfl, rfl, _, rfl⟩

/-! ## What becomes of a turn -/

section

variable [Candidate S] {m : Machine W (LocalSearch W S) S} {factory : Factory W S}
  {rule : Acceptance W S} {neighbor : S} {cause : Failure}

theorem run_enter_unsupplied (hplain : m.solver.inner.Plain)
    (hfactory : m.solver.inner.factory = none) :
    (Solver.enter method).runOn m
      = (.error (.failed (.noFactory m.solver.name)), m.noted .startCalled) := by
  simp only [Solver.enter, method, start, createInitial, requireFactory, Action.run_bind,
    Machine.run_noted, Action.run_get, Machine.solver_noted, hplain.initialMaker, hfactory,
    Action.run_fail]

theorem run_enter_unstarted (hplain : m.solver.inner.Plain)
    (hfactory : m.solver.inner.factory = some factory)
    (hmade : (factory.createInitial m.solver.generator).answer m = .error cause) :
    (Solver.enter method).runOn m = (.error (.failed cause), m.begun factory) := by
  have hrun := Hook.run_of_failed
    (m := (m.noted .startCalled).noted .initialAsked) (hmade :)
  simp only [Solver.enter, method, start, createInitial, requireFactory, Action.run_bind,
    Machine.run_noted, Action.run_get, Action.run_pure, Machine.solver_noted, hplain.initialMaker,
    hfactory, hrun]
  rfl

/-- A start commits if the factory makes a solution, and what is left is a record for debugging: the
    `debugCost` of the initial solution. -/
theorem run_enter_started {initial : S} (hplain : m.solver.inner.Plain)
    (hfactory : m.solver.inner.factory = some factory)
    (hmade : (factory.createInitial m.solver.generator).answer m = .ok initial) :
    (Solver.enter method).runOn m
      = match (debugCost (some initial) startMessage [Candidate.text initial]).runOn
          ((m.begun factory).chosen initial) with
        | (.ok _, m') => (.ok (.started m'.solver.inner.current), m'.opened)
        | (.error h, m') => (.error h, m') := by
  have hrun := Hook.run_of_answered
    (m := (m.noted .startCalled).noted .initialAsked) (hmade :)
  simp only [Solver.enter, method, start, createInitial, requireFactory, Action.run_bind,
    Machine.run_noted, Action.run_get, Action.run_pure, Machine.solver_noted, hplain.initialMaker,
    hfactory, hrun, run_settle]
  rw [← Machine.begun]
  rcases (debugCost (some initial) startMessage [Candidate.text initial]).runOn
    ((m.begun factory).chosen initial) with ⟨h | u, m'⟩ <;> rfl

theorem run_stride_unready (hphase : m.solver.phase = .uninitialized) :
    (Solver.stride method).runOn m = (.error (.failed .notStarted), m.noted .stepCalled) := by
  simp only [Solver.stride, Action.run_bind, Machine.run_noted, Action.run_get,
    Machine.solver_noted, hphase, ne_eq, reduceCtorEq, not_false_eq_true, if_true, Action.run_fail]

theorem run_stride_unmade (hplain : m.solver.inner.Plain) (hready : m.solver.phase = .ready)
    (hfactory : m.solver.inner.factory = some factory)
    (hmade : (factory.neighborFor m.solver).answer m = .error cause) :
    (Solver.stride method).runOn m = (.error (.failed cause), m.offered factory) := by
  have hrun := Hook.run_of_failed
    (m := (m.noted .stepCalled).noted (.neighborAsked m.solver.inner.current)) (hmade :)
  rw [← Machine.offered, Factory.neighborFor] at hrun
  simp only [Solver.stride, method, move, createNeighbor, requireFactory, Action.run_bind,
    Machine.run_noted, Action.run_get, Action.run_pure, Machine.solver_noted, hready, ne_eq,
    not_true_eq_false, if_false, hplain.neighborMaker, hfactory, hrun]

theorem run_stride_undecided (hplain : m.solver.inner.Plain) (hready : m.solver.phase = .ready)
    (hfactory : m.solver.inner.factory = some factory)
    (hrule : m.solver.inner.acceptance = some rule)
    (hmade : (factory.neighborFor m.solver).answer m = .ok neighbor)
    (hdecided : (rule.acceptsFor m.solver neighbor).answer (m.offered factory) = .error cause) :
    (Solver.stride method).runOn m
      = (.error (.failed cause), m.advised factory rule neighbor) := by
  have hoffered := Hook.run_of_answered
    (m := (m.noted .stepCalled).noted (.neighborAsked m.solver.inner.current)) (hmade :)
  have hadvised := Hook.run_of_failed (m := (m.offered factory).noted
    (.acceptanceAsked rule.isCustom neighbor m.solver.inner.current)) (hdecided :)
  have hsolver : (m.offered factory).solver = m.solver := rfl
  rw [← Machine.offered, Factory.neighborFor] at hoffered
  rw [← Machine.advised, Acceptance.acceptsFor] at hadvised
  simp only [Solver.stride, method, move, createNeighbor, requireFactory, decide, Action.run_bind,
    Machine.run_noted, Action.run_get, Action.run_pure, Machine.solver_noted, hready, ne_eq,
    not_true_eq_false, if_false, hplain.neighborMaker, hfactory, hoffered, hsolver, hrule, hadvised]

/-- A step commits if the rule answers, and what is left is a record for debugging: the `debugCost`
    of where it has gone. -/
theorem run_stride_decided {accepted : Bool} (hplain : m.solver.inner.Plain)
    (hready : m.solver.phase = .ready) (hfactory : m.solver.inner.factory = some factory)
    (hrule : m.solver.inner.acceptance = some rule)
    (hmade : (factory.neighborFor m.solver).answer m = .ok neighbor)
    (hdecided : (rule.acceptsFor m.solver neighbor).answer (m.offered factory) = .ok accepted) :
    (Solver.stride method).runOn m
      = match (debugCost ((m.advised factory rule neighbor).judged neighbor
            accepted).solver.inner.current (stepMessage accepted) []).runOn
          ((m.advised factory rule neighbor).judged neighbor accepted) with
        | (.ok _, m') => (.ok (.stepped neighbor accepted), m'.counted)
        | (.error h, m') => (.error h, m') := by
  have hoffered := Hook.run_of_answered
    (m := (m.noted .stepCalled).noted (.neighborAsked m.solver.inner.current)) (hmade :)
  have hadvised := Hook.run_of_answered (m := (m.offered factory).noted
    (.acceptanceAsked rule.isCustom neighbor m.solver.inner.current)) (hdecided :)
  have hsolver : (m.offered factory).solver = m.solver := rfl
  rw [← Machine.offered, Factory.neighborFor] at hoffered
  rw [← Machine.advised, Acceptance.acceptsFor] at hadvised
  simp only [Solver.stride, method, move, createNeighbor, requireFactory, decide, Action.run_bind,
    Machine.run_noted, Action.run_get, Action.run_pure, Machine.solver_noted, hready, ne_eq,
    not_true_eq_false, if_false, hplain.neighborMaker, hfactory, hoffered, hsolver, hrule, hadvised,
    run_conclude]
  rcases (debugCost _ (stepMessage accepted) []).runOn
    ((m.advised factory rule neighbor).judged neighbor accepted) with ⟨h | u, m'⟩ <;> rfl

end

end LocalSearch

variable [Candidate S]

/-- The blocks of landmarks that a turn may write, one for each place where it may end. A start asks
    the factory for an initial solution. A step asks it for a neighbour of the current solution, and
    then the acceptance rule about the neighbour that was made. A hook that fails fails the turn. -/
inductive Turn.Writes : Turn W S → List (Entry S) → Prop
  | unsupplied {m : Machine W (LocalSearch W S) S} (hfactory : m.solver.inner.factory = none)
      (hfailed : (Turn.start m).outcome.1 = .error (.failed (.noFactory m.solver.name))) :
      Writes (.start m) [.startCalled]
  | unstarted {m : Machine W (LocalSearch W S) S} {factory : Factory W S} {cause : Failure}
      (hfactory : m.solver.inner.factory = some factory)
      (hmade : (factory.createInitial m.solver.generator).answer m = .error cause)
      (hfailed : (Turn.start m).outcome.1 = .error (.failed cause)) :
      Writes (.start m) [.startCalled, .initialAsked]
  | started {m : Machine W (LocalSearch W S) S} {factory : Factory W S} {initial : S}
      (hfactory : m.solver.inner.factory = some factory)
      (hmade : (factory.createInitial m.solver.generator).answer m = .ok initial) :
      Writes (.start m) [.startCalled, .initialAsked, .started initial]
  | unready {m : Machine W (LocalSearch W S) S} (hphase : m.solver.phase = .uninitialized)
      (hfailed : (Turn.step m).outcome.1 = .error (.failed .notStarted)) :
      Writes (.step m) [.stepCalled]
  | unmade {m : Machine W (LocalSearch W S) S} {factory : Factory W S} {cause : Failure}
      (hready : m.solver.phase = .ready) (hfactory : m.solver.inner.factory = some factory)
      (hmade : (factory.neighborFor m.solver).answer m = .error cause)
      (hfailed : (Turn.step m).outcome.1 = .error (.failed cause)) :
      Writes (.step m) [.stepCalled, .neighborAsked m.solver.inner.current]
  | undecided {m : Machine W (LocalSearch W S) S} {factory : Factory W S} {rule : Acceptance W S}
      {neighbor : S} {cause : Failure}
      (hready : m.solver.phase = .ready) (hfactory : m.solver.inner.factory = some factory)
      (hrule : m.solver.inner.acceptance = some rule)
      (hmade : (factory.neighborFor m.solver).answer m = .ok neighbor)
      (hdecided : (rule.acceptsFor m.solver neighbor).answer (m.offered factory) = .error cause)
      (hfailed : (Turn.step m).outcome.1 = .error (.failed cause)) :
      Writes (.step m) [.stepCalled, .neighborAsked m.solver.inner.current,
        .acceptanceAsked rule.isCustom neighbor m.solver.inner.current]
  | decided {m : Machine W (LocalSearch W S) S} {factory : Factory W S} {rule : Acceptance W S}
      {neighbor : S} {accepted : Bool}
      (hready : m.solver.phase = .ready) (hfactory : m.solver.inner.factory = some factory)
      (hrule : m.solver.inner.acceptance = some rule)
      (hmade : (factory.neighborFor m.solver).answer m = .ok neighbor)
      (hdecided : (rule.acceptsFor m.solver neighbor).answer (m.offered factory) = .ok accepted) :
      Writes (.step m) [.stepCalled, .neighborAsked m.solver.inner.current,
        .acceptanceAsked rule.isCustom neighbor m.solver.inner.current, .decided neighbor accepted]

namespace LocalSearch

/-- A start writes one block of landmarks, as `Turn.Writes` says. -/
theorem writes_start {m : Machine W (LocalSearch W S) S} (hplain : m.solver.inner.Plain) :
    ∃ block, (Turn.start m).Writes block ∧
      (Turn.start m).outcome.2.landmarks = m.landmarks ++ block := by
  cases hfactory : m.solver.inner.factory with
  | none =>
    have hrun := run_enter_unsupplied hplain hfactory
    refine ⟨_, .unsupplied hfactory (congrArg Prod.fst hrun), ?_⟩
    rw [Turn.outcome, hrun]
    exact m.landmarks_noted rfl
  | some factory =>
    cases hmade : (factory.createInitial m.solver.generator).answer m with
    | error cause =>
      have hrun := run_enter_unstarted hplain hfactory hmade
      refine ⟨_, .unstarted hfactory hmade (congrArg Prod.fst hrun), ?_⟩
      rw [Turn.outcome, hrun]
      exact m.landmarks_begun factory
    | ok initial =>
      refine ⟨_, .started hfactory hmade, ?_⟩
      rw [Turn.outcome, run_enter_started hplain hfactory hmade]
      -- The record for debugging adds nothing to the commit.
      have hshown := (Action.Idles.debugCost (some initial) startMessage [Candidate.text initial]
        ((m.begun factory).chosen initial)).landmarks
      rw [Machine.landmarks_chosen, Machine.landmarks_begun, List.append_assoc] at hshown
      split <;> rename_i hrun <;> rw [hrun] at hshown <;> exact hshown

/-- A step writes one block of landmarks, provided that a search that is ready has a factory. -/
theorem writes_step {m : Machine W (LocalSearch W S) S} (hplain : m.solver.inner.Plain)
    (hsupplied : m.solver.phase = .ready → ∃ factory, m.solver.inner.factory = some factory) :
    ∃ block, (Turn.step m).Writes block ∧
      (Turn.step m).outcome.2.landmarks = m.landmarks ++ block := by
  cases hphase : m.solver.phase with
  | uninitialized =>
    have hrun := run_stride_unready (W := W) hphase
    refine ⟨_, .unready hphase (congrArg Prod.fst hrun), ?_⟩
    rw [Turn.outcome, hrun]
    exact m.landmarks_noted rfl
  | ready =>
    obtain ⟨factory, hfactory⟩ := hsupplied hphase
    obtain ⟨rule, hrule⟩ := hplain.acceptance
    cases hmade : (factory.neighborFor m.solver).answer m with
    | error cause =>
      have hrun := run_stride_unmade hplain hphase hfactory hmade
      refine ⟨_, .unmade hphase hfactory hmade (congrArg Prod.fst hrun), ?_⟩
      rw [Turn.outcome, hrun]
      exact m.landmarks_offered factory
    | ok neighbor =>
      cases hdecided : (rule.acceptsFor m.solver neighbor).answer (m.offered factory) with
      | error cause =>
        have hrun := run_stride_undecided hplain hphase hfactory hrule hmade hdecided
        refine ⟨_, .undecided hphase hfactory hrule hmade hdecided (congrArg Prod.fst hrun), ?_⟩
        rw [Turn.outcome, hrun]
        exact m.landmarks_advised factory rule neighbor
      | ok accepted =>
        refine ⟨_, .decided hphase hfactory hrule hmade hdecided, ?_⟩
        rw [Turn.outcome, run_stride_decided hplain hphase hfactory hrule hmade hdecided]
        have hshown := (Action.Idles.debugCost ((m.advised factory rule neighbor).judged neighbor
          accepted).solver.inner.current (stepMessage accepted) []
            ((m.advised factory rule neighbor).judged neighbor accepted)).landmarks
        rw [Machine.landmarks_judged, Machine.landmarks_advised, List.append_assoc] at hshown
        split <;> rename_i hrun <;> rw [hrun] at hshown <;> exact hshown

end LocalSearch

/-! ## What a turn does to the solver -/

theorem Entered.phase_of_failed {m : Machine W (LocalSearch W S) S}
    {result : Except Halt (News S) × Machine W (LocalSearch W S) S} (h : Entered m result)
    {halt : Halt} (hfailed : result.1 = .error halt) :
    result.2.solver.phase = m.solver.phase := by
  cases h with
  | failed h => exact congrArg Solver.phase h.solver
  | unreported h h' hcost => simp only [h'.solver, Machine.chosen, h.solver]
  | entered h h' => cases hfailed

theorem Strode.phase {m : Machine W (LocalSearch W S) S}
    {result : Except Halt (News S) × Machine W (LocalSearch W S) S} (h : Strode m result) :
    result.2.solver.phase = m.solver.phase := by
  cases h with
  | failed h => exact congrArg Solver.phase h.solver
  | unreported hready hjudges h h' hcost => simp only [h'.solver, Machine.judged, h.solver]
  | strode hready hjudges h h' =>
    simp only [Machine.counted, h'.solver, Machine.judged, h.solver]

namespace Turn

theorem blank (t : Turn W S) : t.outcome.2.solver.blank = t.before.solver.blank := by
  cases t with
  | start m => exact (LocalSearch.entered_enter m).blank
  | step m => exact (LocalSearch.strode_stride m).blank

theorem observers (t : Turn W S) :
    t.outcome.2.solver.observers = t.before.solver.observers := by
  cases t with
  | start m => exact (LocalSearch.entered_enter m).unseen.observers
  | step m => exact (LocalSearch.strode_stride m).unseen.observers

/-- A turn that fails leaves the phase as it was, and only a start may change it. -/
theorem phase (t : Turn W S) (h : (∃ m, t = .step m) ∨ ∃ halt, t.outcome.1 = .error halt) :
    t.outcome.2.solver.phase = t.before.solver.phase := by
  cases t with
  | start m =>
    rcases h with ⟨m', h⟩ | ⟨halt, hfailed⟩
    · cases h
    · exact (LocalSearch.entered_enter m).phase_of_failed hfailed
  | step m => exact (LocalSearch.strode_stride m).phase

end Turn

end HillClimb
