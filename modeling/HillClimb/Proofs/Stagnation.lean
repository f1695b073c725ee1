import HillClimb.Proofs.Descent
import HillClimb.Proofs.Telling

set_option autoImplicit false

/-! # Runs that stop when the search stagnates

A run that stops after so many rejections in a row (`Program.stagnant`) comes to an end if the
comparator is a strict partial order on finitely many keys: an accepted neighbour lowers the `rank`
of the current solution, and between two accepted ones only so many may be rejected.

Nothing that the search asks of others may fail (`Smooth`). Then its rounds end (`leads_round`), its
steps lead on from one solution to the next (`leads_stride`), its laps end (`leads_laps`), and a run
returns (`leads_runUntil`). The result is `stagnation_stops_runs`. -/

namespace HillClimb

variable {W S α β : Type}

/-! ## Hooks and programs that do not get in the way -/

/-- On a `HookState` with `I` the hook answers, and keeps `I`. -/
def Hook.Steady (I : W → Generators → Prop) (h : Hook W S α) : Prop :=
  ∀ world generators, I world generators → ∃ a state,
    h.runAt ⟨world, generators, #[]⟩ = (.ok a, state) ∧ I state.world state.generators

/-- The program calls nobody, its hooks keep `I`, and it does not fail. -/
def Program.Passive (I : W → Generators → Prop) : Program W S α → Prop
  | .done _ => True
  | .fail _ => False
  | .look next => ∀ seen world, (next seen world).Passive I
  | .read _ next => ∀ trajectory, (next trajectory).Passive I
  | .perform h next => ∀ world generators, I world generators →
    I (h.runAt ⟨world, generators, #[]⟩).2.world (h.runAt ⟨world, generators, #[]⟩).2.generators ∧
      (next (h.runAt ⟨world, generators, #[]⟩).1).Passive I
  | .call _ _ => False

/-- Stops as soon as there were so many rejections in a row. -/
def Program.stagnant (n : Nat) : Program W S Bool :=
  .look fun seen _ => .done (seen.stagnation.any fun k => (n : Int) ≤ k)

/-- Nothing that the search asks of its factory, its comparator and its observers fails. -/
structure Smooth [Candidate S] (cast : Cast W S) (factory : Factory W S) (c : Comparator W S)
    (g : GeneratorId) (P : S → Prop) (I : W → Generators → Prop) : Prop where
  initial : (factory.createInitial g).Steady I
  neighbor : ∀ s, P s → (factory.createNeighbor (some s) g).Steady I
  comparator : ∀ a b, P a → P b → (c.isBetter a b).Steady I
  observer : ∀ o program, cast.observer o = .custom program → ∀ news, (program news).Passive I

/-- The solver and its landmarks are as they were, and the hooks can still be relied on: `I`
    holds. -/
structure Machine.SolverKept (I : W → Generators → Prop) (m₀ m : Machine W (LocalSearch W S) S) :
    Prop where
  solver : m.solver = m₀.solver
  landmarks : m.landmarks = m₀.landmarks
  steady : I m.world m.generators

variable [Candidate S]

/-- News come with a solution if a recording of them fails, then because a cost cannot be known. -/
theorem Recording.failed_cost {current : Option S} {news : News S} {state : RecordingState S}
    {cause : Failure} (hnews : news ≠ .started none) (hcurrent : ∃ s, current = some s)
    (h : ((Recording.record current news).run state).1 = .error cause) :
    ∃ s, .costs s ∈ ((Recording.record current news).run state).2.probes ∧
      Candidate.costs s = .error cause := by
  obtain ⟨s, rfl⟩ := hcurrent
  cases news with
  | started solution =>
    cases solution with
    | none => exact absurd rfl hnews
    | some initial =>
      simp only [Recording.record, run_bind_state, Recording.run_change, Recording.run_costs] at h ⊢
      cases hcost : Candidate.costs initial with
      | ok v => simp [hcost] at h
      | error cause' =>
        simp only [hcost] at h
        exact ⟨initial, by simp, hcost.trans (congrArg Except.error (Except.error.inj h))⟩
  | stepped neighbor accepted =>
    simp only [Recording.record, run_bind_state, Recording.run_change, Recording.run_costs] at h ⊢
    cases hneighbor : Candidate.costs neighbor with
    | error cause' =>
      simp only [hneighbor] at h
      exact ⟨neighbor, by simp, hneighbor.trans (congrArg Except.error (Except.error.inj h))⟩
    | ok x =>
      cases hcost : Candidate.costs s with
      | ok v => simp [hneighbor, hcost] at h
      | error cause' =>
        simp only [hneighbor, hcost] at h
        exact ⟨s, by simp, hcost.trans (congrArg Except.error (Except.error.inj h))⟩

/-! ## Work that keeps the solver -/

/-- The search failed, and a cost that was asked for could not be known. -/
def Halt.ByCost (h : Halt) (m : Machine W (LocalSearch W S) S) : Prop :=
  (∃ cause, h = .failed cause) ∧ ¬ CostsKnown m.past

/-- The action keeps the solver as `Machine.SolverKept` says, unless a cost fails. -/
def Action.KeepsSolver (I : W → Generators → Prop) (m₀ : Machine W (LocalSearch W S) S)
    (x : Action W (LocalSearch W S) S α) : Prop :=
  Action.Leads (m₀.SolverKept I) x (fun _ => m₀.SolverKept I) Halt.ByCost

namespace Action.KeepsSolver

variable {I : W → Generators → Prop} {m₀ : Machine W (LocalSearch W S) S}

theorem pure (a : α) : KeepsSolver I m₀ (pure a : Action W (LocalSearch W S) S α) :=
  Leads.pure fun _ h => h

theorem bind {x : Action W (LocalSearch W S) S α} {f : α → Action W (LocalSearch W S) S β}
    (hx : KeepsSolver I m₀ x) (hf : ∀ a, KeepsSolver I m₀ (f a)) : KeepsSolver I m₀ (x >>= f) :=
  Leads.bind hx hf

theorem get :
    KeepsSolver I m₀ (get : Action W (LocalSearch W S) S (Machine W (LocalSearch W S) S)) :=
  fun _ h => h

theorem noteSeen {entry : Sight S → Entry S} (hentry : ∀ seen, (entry seen).sight? = some seen) :
    KeepsSolver I m₀ (LocalSearch.method.noteSeen entry) :=
  fun m h => ⟨h.solver,
    (Idles.noteSeen LocalSearch.method hentry m).landmarks.trans h.landmarks, h.steady⟩

theorem log (level : Int) (source : LogSource) (message : String)
    (arguments : List (Option String)) : KeepsSolver I m₀ (log level source message arguments) := by
  intro m h
  have hidle := (Idles.log level source message arguments m).landmarks
  rw [run_log] at hidle ⊢
  refine ⟨?_, hidle.trans h.landmarks, ?_⟩
  · split <;> exact h.solver
  · split <;> exact h.steady

/-- Asking for a cost changes nothing, and fails only if the cost cannot be known. -/
theorem costs (s : S) : KeepsSolver I m₀ (hook (Hook.costs s)) := by
  intro m h
  have hidle := (Idles.hook (Hook.costs s) m).landmarks
  rw [run_hook_costs] at hidle ⊢
  cases hcost : Candidate.costs s with
  | ok v => exact ⟨h.solver, hidle.trans h.landmarks, h.steady⟩
  | error cause =>
    refine ⟨⟨cause, rfl⟩, fun hknown => hknown.not_failed (s := s) ?_ cause hcost⟩
    simp [Machine.past]

theorem debugCost (s : S) (message : String) (further : List String) :
    KeepsSolver I m₀ (LocalSearch.debugCost (some s) message further) := by
  refine get.bind fun m => ?_
  split
  · exact (pure s).bind fun s => (costs s).bind fun _ => log _ _ _ _
  · exact pure _

/-- Recording fails only if a cost cannot be known. -/
theorem record (o : ObserverId) {news : News S} (hnews : news ≠ .started none)
    (hcurrent : ∃ s, m₀.solver.inner.current = some s) :
    KeepsSolver I m₀ (record LocalSearch.method o news) := by
  intro m h
  have hidle := (Idles.record LocalSearch.method o news m).landmarks
  have hasked := fun q => probed_of_record m o news (q := q)
  rw [← h.solver] at hcurrent
  rw [run_record] at hidle hasked ⊢
  cases hresult : ((Recording.record (LocalSearch.method.current m.solver.inner) news).run
      ⟨m.recordings.of o, #[]⟩).1 with
  | ok u => exact ⟨h.solver, hidle.trans h.landmarks, h.steady⟩
  | error cause =>
    obtain ⟨s, hs, hcost⟩ := Recording.failed_cost hnews hcurrent hresult
    exact ⟨⟨cause, rfl⟩, fun hknown => hknown.not_failed (hasked (.costs s) hs) cause hcost⟩

/-- What `SolverKept` keeps is kept by an action that keeps the solver wherever it holds. -/
theorem leads {A : Machine W (LocalSearch W S) S → Prop} {x : Action W (LocalSearch W S) S α}
    (hx : ∀ m, A m → KeepsSolver I m x) (hI : ∀ m, A m → I m.world m.generators)
    (hA : ∀ m m', A m → m.SolverKept I m' → A m') : Leads A x (fun _ => A) Halt.ByCost := by
  intro m hm
  have hafter := hx m hm m ⟨rfl, rfl, hI m hm⟩
  rcases hxm : x.runOn m with ⟨h | a, m'⟩ <;> rw [hxm] at hafter
  · exact hafter
  · exact hA m m' hm hafter

end Action.KeepsSolver

/-! ## Rounds -/

section

variable {I : W → Generators → Prop} {m₀ : Machine W (LocalSearch W S) S}
  {serve : Call → Action W (LocalSearch W S) S Unit}

theorem keepsSolver_play (p : Program W S α) (hp : p.Passive I) :
    Action.KeepsSolver I m₀ (p.play LocalSearch.method serve) := by
  induction p with
  | done a => exact .pure a
  | fail cause => exact hp.elim
  | look next ih =>
    rw [Program.play]
    refine (Action.KeepsSolver.noteSeen fun _ => rfl).bind fun _ =>
      Action.KeepsSolver.get.bind fun m => ?_
    exact ih _ _ (hp _ _)
  | read o next ih =>
    rw [Program.play]
    refine (Action.KeepsSolver.noteSeen fun _ => rfl).bind fun _ =>
      Action.KeepsSolver.get.bind fun m => ?_
    exact ih _ (hp _)
  | perform h next ih =>
    intro m hm
    obtain ⟨hsteady, hnext⟩ := hp m.world m.generators hm.steady
    have hwake : m₀.SolverKept I (h.wake m) :=
      ⟨hm.solver, (Action.Idles.hook h m).landmarks.trans hm.landmarks, hsteady⟩
    have hrun : (Action.attempt (Action.hook h) : Action W (LocalSearch W S) S _).runOn m
        = (.ok (h.answer m), h.wake m) := by
      rw [Action.run_attempt]
      cases hanswer : h.answer m with
      | ok v => rw [Hook.run_of_answered hanswer]
      | error cause => rw [Hook.run_of_failed hanswer]
    rw [Program.play, Action.run_bind, hrun]
    exact ih _ hnext (h.wake m) hwake
  | call c next ih => exact hp.elim

variable {cast : Cast W S}
  (hcast : ∀ o program, cast.observer o = .custom program → ∀ news, (program news).Passive I)
  (hcurrent : ∃ s, m₀.solver.inner.current = some s)

include hcast hcurrent

theorem keepsSolver_notify {news : News S} (hnews : news ≠ .started none) (place : Nat)
    (o : ObserverId) :
    Action.KeepsSolver I m₀ (Solver.notify LocalSearch.method cast serve news place o) := by
  refine (Action.KeepsSolver.noteSeen fun _ => rfl).bind fun _ => ?_
  unfold Solver.react
  split
  · exact .pure _
  · exact .record o hnews hcurrent
  · rename_i program hprogram
    exact keepsSolver_play _ (hcast o program hprogram news)

/-- A round of `Passive` observers ends, given enough fuel for those that are still to be told. -/
theorem keepsSolver_round {news : News S} (hnews : news ≠ .started none) {fuel place : Nat}
    (hfuel : m₀.solver.observers.size - place < fuel) :
    Action.KeepsSolver I m₀ (Solver.round LocalSearch.method cast serve news fuel place) := by
  induction fuel generalizing place with
  | zero => omega
  | succ fuel ih =>
    intro m hm
    simp only [Solver.round, Action.run_bind, Action.run_get, hm.solver]
    cases ho : m₀.solver.observers[place]? with
    | none => exact hm
    | some o =>
      have hplace : place < m₀.solver.observers.size := (Array.getElem?_eq_some_iff.1 ho).1
      have hnext : Action.KeepsSolver I m₀
          (Solver.round LocalSearch.method cast serve news fuel (place + 1)) := ih (by omega)
      exact ((keepsSolver_notify hcast hcurrent hnews place o).bind fun _ => hnext) m hm

end

/-! ## Searches that are under way -/

/-- How many steps were called for. -/
def Machine.strides (m : Machine W (LocalSearch W S) S) : Nat :=
  m.landmarks.countP fun e => e matches .stepCalled

omit [Candidate S] in
/-- On a machine where `I` holds a steady hook answers, and `I` holds afterwards, too. -/
theorem Hook.Steady.on {I : W → Generators → Prop} {h : Hook W S α} (hs : h.Steady I)
    {m : Machine W (LocalSearch W S) S} (hI : I m.world m.generators) :
    ∃ a, h.answer m = .ok a ∧ I (h.wake m).world (h.wake m).generators := by
  obtain ⟨a, state, hrun, hkept⟩ := hs m.world m.generators hI
  refine ⟨a, congrArg Prod.fst hrun, ?_⟩
  rw [← show (h.runAt ⟨m.world, m.generators, #[]⟩).2 = state from congrArg Prod.snd hrun] at hkept
  exact hkept

/-- A search with this factory and the strict rule of this comparator, on a machine where its hooks
    can be relied on. -/
structure Provided (factory : Factory W S) (c : Comparator W S) (g : GeneratorId)
    (I : W → Generators → Prop) (size strides : Nat) (m : Machine W (LocalSearch W S) S) :
    Prop where
  plain : m.solver.inner.Plain
  factory : m.solver.inner.factory = some factory
  acceptance : m.solver.inner.acceptance = some (.strict (some c))
  generator : m.solver.generator = g
  observers : m.solver.observers.size = size
  steady : I m.world m.generators
  strides : m.strides = strides

/-- Such a search that is `ready`, at the solution `s` and after `k` rejections in a row. -/
structure Poised (factory : Factory W S) (c : Comparator W S) (g : GeneratorId)
    (I : W → Generators → Prop) (P : S → Prop) (size strides : Nat) (s : S) (k : Nat)
    (m : Machine W (LocalSearch W S) S) : Prop extends Provided factory c g I size strides m where
  ready : m.solver.phase = .ready
  current : m.solver.inner.current = some s
  property : P s
  stagnation : m.solver.inner.stagnation = k

section

variable {factory : Factory W S} {c : Comparator W S} {g : GeneratorId}
  {I : W → Generators → Prop} {P : S → Prop} {size d : Nat} {m m' : Machine W (LocalSearch W S) S}

omit [Candidate S] in
theorem Provided.solverKept (h : Provided factory c g I size d m) (hkeeps : m.SolverKept I m') :
    Provided factory c g I size d m' := by
  have hsolver := hkeeps.solver
  refine ⟨?_, ?_, ?_, ?_, ?_, hkeeps.steady, ?_⟩
  · rw [hsolver]
    exact h.plain
  · rw [hsolver]
    exact h.factory
  · rw [hsolver]
    exact h.acceptance
  · rw [hsolver]
    exact h.generator
  · rw [hsolver]
    exact h.observers
  · rw [Machine.strides, hkeeps.landmarks]
    exact h.strides

omit [Candidate S] in
theorem Poised.solverKept {s : S} {k : Nat} (h : Poised factory c g I P size d s k m)
    (hkeeps : m.SolverKept I m') : Poised factory c g I P size d s k m' := by
  refine ⟨h.toProvided.solverKept hkeeps, ?_, ?_, h.property, ?_⟩ <;> rw [hkeeps.solver]
  · exact h.ready
  · exact h.current
  · exact h.stagnation

/-- A turn changes nothing of what the search was made with. -/
theorem Provided.turn {t : Turn W S} (h : Provided factory c g I size d t.before) {d' : Nat}
    (hsteady : I t.outcome.2.world t.outcome.2.generators) (hstrides : t.outcome.2.strides = d') :
    Provided factory c g I size d' t.outcome.2 := by
  obtain ⟨hfactory, hacceptance, hgenerator, hplain⟩ := Solver.made_of_blank t.blank
  refine ⟨hplain h.plain, hfactory.trans h.factory, hacceptance.trans h.acceptance,
    hgenerator.trans h.generator, ?_, hsteady, hstrides⟩
  rw [t.observers]
  exact h.observers

variable {cast : Cast W S} {R : S → S → Bool} (hsmooth : Smooth cast factory c g P I)
  (honly : factory.MakesOnly P)

include hsmooth honly

/-- A start leads to a search that is `Poised`, and that has rejected nothing. -/
theorem leads_enter :
    Action.Leads (Provided factory c g I size d) (Solver.enter LocalSearch.method)
      (fun news m => news ≠ .started none ∧ ∃ s, Poised factory c g I P size d s 0 m)
      Halt.ByCost := by
  intro m hm
  obtain ⟨initial, hmade, hbegun⟩ := hsmooth.initial.on
    (m := (m.noted .startCalled).noted .initialAsked) hm.steady
  rw [← hm.generator] at hmade hbegun
  have hP := honly.initial _ _ _ hmade
  have hkeeps := Action.KeepsSolver.debugCost initial LocalSearch.startMessage
    [Candidate.text initial] ((m.begun factory).chosen initial) ⟨rfl, rfl, hbegun⟩
  have houtcome : (Turn.start m).outcome = _ :=
    LocalSearch.run_enter_started hm.plain hm.factory hmade
  change Action.After (Turn.start m).outcome _ _
  rcases hdebug : (LocalSearch.debugCost (some initial) LocalSearch.startMessage
    [Candidate.text initial]).runOn ((m.begun factory).chosen initial) with ⟨halt | u, m'⟩ <;>
    rw [hdebug] at hkeeps houtcome
  · rw [houtcome]
    exact hkeeps
  · obtain ⟨hsolver, hlandmarks, hsteady⟩ :
        ((m.begun factory).chosen initial).SolverKept I m' := hkeeps
    have hstrides : m'.opened.strides = d := by
      rw [Machine.strides, Machine.landmarks_opened, hlandmarks, Machine.landmarks_chosen,
        Machine.landmarks_begun, List.append_assoc, List.countP_append]
      exact hm.strides
    have hprovided : Provided factory c g I size d (Turn.start m).outcome.2 :=
      hm.turn (by rw [houtcome]; exact hsteady) (by rw [houtcome]; exact hstrides)
    have hcurrent : m'.opened.solver.inner.current = some initial := by
      rw [Machine.opened, hsolver]
      rfl
    rw [houtcome] at hprovided ⊢
    refine ⟨?_, initial, hprovided, rfl, hcurrent, hP, ?_⟩
    · rw [show m'.solver.inner.current = some initial from hcurrent]
      simp
    · rw [Machine.opened, hsolver]
      rfl

/-- The hooks of a step make a neighbour and decide on it as the relation says. -/
theorem Poised.decides (hc : c.Answers P R) (hcounts : c.counts) {s : S} {k : Nat}
    (hm : Poised factory c g I P size d s k m) :
    ∃ neighbor accepted, P neighbor ∧ R neighbor s = accepted ∧
      (factory.neighborFor m.solver).answer m = .ok neighbor ∧
      ((Acceptance.strict (some c)).acceptsFor m.solver neighbor).answer (m.offered factory)
        = .ok accepted ∧
      I (m.advised factory (.strict (some c)) neighbor).world
        (m.advised factory (.strict (some c)) neighbor).generators := by
  have hasks : factory.neighborFor m.solver = factory.createNeighbor (some s) g := by
    rw [Factory.neighborFor, hm.current, hm.generator]
  obtain ⟨neighbor, hmade, hoffered⟩ := (hsmooth.neighbor s hm.property).on
    (m := (m.noted .stepCalled).noted (.neighborAsked m.solver.inner.current)) hm.steady
  have hP := honly.neighbor _ _ _ _ hmade
  rw [← hasks] at hmade hoffered
  have hadvises : (Acceptance.strict (some c)).acceptsFor m.solver neighbor
      = c.isBetter neighbor s := by
    simp only [Acceptance.acceptsFor, hm.current, Acceptance.accepts, Acceptance.strictly,
      Comparator.firstCounting, hcounts, if_true]
  obtain ⟨accepted, hdecided, hadvised⟩ := (hsmooth.comparator neighbor s hP hm.property).on
    (m := (m.offered factory).noted (.acceptanceAsked false neighbor m.solver.inner.current))
    hoffered
  have hanswer : R neighbor s = accepted :=
    Except.ok.inj ((hc neighbor s hP hm.property _).symm.trans hdecided)
  rw [← hadvises] at hdecided hadvised
  exact ⟨neighbor, accepted, hP, hanswer, hmade, hdecided, hadvised⟩

omit [Candidate S] hsmooth honly in
/-- Where a search is after a decision, and how many rejections in a row it has then counted. -/
theorem Poised.judged {s : S} {k : Nat} (hm : Poised factory c g I P size d s k m)
    (hsolver : m.solver = m'.solver) (neighbor : S) (accepted : Bool) :
    (m'.judged neighbor accepted).solver.phase = .ready ∧
      (m'.judged neighbor accepted).solver.inner.current = some (if accepted then neighbor else s) ∧
      (m'.judged neighbor accepted).solver.inner.stagnation
        = (if accepted then 0 else k + 1 : Nat) := by
  rw [Machine.judged, ← hsolver]
  refine ⟨hm.ready, ?_⟩
  cases accepted with
  | true => exact ⟨rfl, rfl⟩
  | false => exact ⟨hm.current, congrArg (· + 1) hm.stagnation⟩

/-- A step goes to a better solution, or it counts one more rejection. -/
theorem leads_stride (hc : c.Answers P R) (hcounts : c.counts) (s : S) (k : Nat) :
    Action.Leads (Poised factory c g I P size d s k) (Solver.stride LocalSearch.method)
      (fun news m => news ≠ .started none ∧ ∃ s' k',
        Poised factory c g I P size (d + 1) s' k' m ∧ (R s' s ∧ k' = 0 ∨ s' = s ∧ k' = k + 1))
      Halt.ByCost := by
  intro m hm
  obtain ⟨neighbor, accepted, hP, hanswer, hmade, hdecided, hadvised⟩ :=
    hm.decides hsmooth honly hc hcounts
  have houtcome : (Turn.step m).outcome = _ :=
    LocalSearch.run_stride_decided hm.plain hm.ready hm.factory hm.acceptance hmade hdecided
  have hlandmarks :=
    (m.advised factory (.strict (some c)) neighbor).landmarks_judged neighbor accepted
  have hworld : I ((m.advised factory (.strict (some c)) neighbor).judged neighbor accepted).world
      ((m.advised factory (.strict (some c)) neighbor).judged neighbor accepted).generators :=
    hadvised
  have hsolver : m.solver = (m.advised factory (.strict (some c)) neighbor).solver := rfl
  obtain ⟨hready, hcurrent, hstagnation⟩ := hm.judged hsolver neighbor accepted
  -- From the decision on there is only the record for debugging, which keeps the solver.
  change Action.After (Turn.step m).outcome _ _
  generalize (m.advised factory (.strict (some c)) neighbor).judged neighbor accepted = m₁
    at houtcome hlandmarks hworld hready hcurrent hstagnation
  have hkeeps := Action.KeepsSolver.debugCost (if accepted then neighbor else s)
    (LocalSearch.stepMessage accepted) [] m₁ ⟨rfl, rfl, hworld⟩
  rw [hcurrent] at houtcome
  rcases hdebug : (LocalSearch.debugCost (some (if accepted then neighbor else s))
    (LocalSearch.stepMessage accepted) []).runOn m₁ with ⟨halt | u, m'⟩ <;>
    rw [hdebug] at hkeeps houtcome
  · rw [houtcome]
    exact hkeeps
  · obtain ⟨hsolver, hkept, hsteady⟩ : m₁.SolverKept I m' := hkeeps
    have hstrides : m'.counted.strides = d + 1 := by
      rw [Machine.strides, Machine.landmarks_counted, hkept, hlandmarks,
        Machine.landmarks_advised, List.append_assoc, List.countP_append]
      exact congrArg (· + 1) hm.strides
    have hprovided : Provided factory c g I size (d + 1) (Turn.step m).outcome.2 :=
      hm.toProvided.turn (by rw [houtcome]; exact hsteady) (by rw [houtcome]; exact hstrides)
    rw [houtcome] at hprovided ⊢
    refine ⟨by simp, if accepted then neighbor else s, if accepted then 0 else k + 1,
      ⟨hprovided, ?_, ?_, ?_, ?_⟩, ?_⟩
    · rw [Machine.counted, hsolver]
      exact hready
    · rw [Machine.counted, hsolver]
      exact hcurrent
    · cases accepted with
      | true => exact hP
      | false => exact hm.property
    · rw [Machine.counted, hsolver]
      exact hstagnation
    · cases accepted with
      | true => exact .inl ⟨hanswer, rfl⟩
      | false => exact .inr ⟨rfl, rfl⟩

/-! ## Runs -/

variable {serve : Call → Action W (LocalSearch W S) S Unit}

omit honly in
/-- A search that is `Poised` stays so while its observers are told. -/
theorem leads_round {news : News S} (hnews : news ≠ .started none) {fuel : Nat}
    (hfuel : size < fuel) (s : S) (k : Nat) :
    Action.Leads (Poised factory c g I P size d s k)
      (Solver.round LocalSearch.method cast serve news fuel 0)
      (fun _ => Poised factory c g I P size d s k) Halt.ByCost := by
  refine Action.KeepsSolver.leads (fun m hm => ?_) (fun m hm => hm.steady)
    fun m m' hm => hm.solverKept
  refine keepsSolver_round hsmooth.observer ⟨s, hm.current⟩ hnews ?_
  rw [hm.observers]
  omega

theorem leads_begin {fuel : Nat} (hfuel : size < fuel) :
    Action.Leads (Provided factory c g I size d) (Solver.begin LocalSearch.method cast serve fuel)
      (fun _ m => ∃ s, Poised factory c g I P size d s 0 m) Halt.ByCost := by
  refine (leads_enter hsmooth honly).bind fun news m => ?_
  rintro ⟨hnews, s, hs⟩
  exact ((leads_round hsmooth hnews hfuel s 0).imp (fun _ h => h) fun _ _ h => ⟨s, h⟩) m hs

theorem leads_advance (hc : c.Answers P R) (hcounts : c.counts) {fuel : Nat} (hfuel : size < fuel)
    (s : S) (k : Nat) :
    Action.Leads (Poised factory c g I P size d s k)
      (Solver.advance LocalSearch.method cast serve fuel)
      (fun _ m => ∃ s' k', Poised factory c g I P size (d + 1) s' k' m ∧
        (R s' s ∧ k' = 0 ∨ s' = s ∧ k' = k + 1)) Halt.ByCost := by
  refine (leads_stride hsmooth honly hc hcounts s k).bind fun news m => ?_
  rintro ⟨hnews, s', k', hs, hprogress⟩
  exact ((leads_round hsmooth hnews hfuel s' k').imp (fun _ h => h)
    fun _ _ h => ⟨s', k', h, hprogress⟩) m hs

/-- Laps that stop after `n` rejections in a row end, since every lap lowers the `height` of the
    solution or the number of rejections that are still tolerated. -/
theorem leads_laps (hc : c.Answers P R) (hcounts : c.counts) {height : S → Nat}
    (hheight : ∀ a b, P a → P b → R a b → height a < height b) {stop : StopId} {n : Nat}
    (hstop : cast.stop stop = .stagnant n) {bound : Nat} (hbound : size < bound) {fuel : Nat}
    (count : Nat) (s : S) (k : Nat) (hfuel : height s * n + (n - k) < fuel) :
    Action.Leads (Poised factory c g I P size d s k)
      (Solver.laps LocalSearch.method cast serve stop none bound fuel count)
      (fun _ m => ∃ s' k' d', Poised factory c g I P size d' s' k' m ∧ n ≤ k' ∧
        d' ≤ d + (height s * n + (n - k))) Halt.ByCost := by
  induction fuel generalizing count s k d with
  | zero => omega
  | succ fuel ih =>
    have hlooks : Action.Leads (Poised factory c g I P size d s k)
        (LocalSearch.method.noteSeen .stopAsked) (fun _ => Poised factory c g I P size d s k)
        Halt.ByCost :=
      Action.KeepsSolver.leads (fun m _ => .noteSeen fun _ => rfl) (fun m hm => hm.steady)
        fun m m' hm => hm.solverKept
    have hstops : Action.Leads (Poised factory c g I P size d s k)
        ((cast.stop stop).play LocalSearch.method serve)
        (fun stopped m => Poised factory c g I P size d s k m ∧ (stopped ↔ n ≤ k))
        Halt.ByCost := by
      intro m hm
      have hrun : ((Program.stagnant n).play LocalSearch.method serve).runOn m
          = (.ok (decide ((n : Int) ≤ m.solver.inner.stagnation)), m.glimpsed .looked) := rfl
      have hglimpsed : (m.glimpsed .looked).landmarks = m.landmarks :=
        (Action.Idles.noteSeen LocalSearch.method (fun _ => rfl) m).landmarks
      rw [hstop, hrun, hm.stagnation]
      exact ⟨hm.solverKept ⟨rfl, hglimpsed, hm.steady⟩, by simp⟩
    rw [Solver.laps]
    refine hlooks.bind fun _ => hstops.bind fun stopped => ?_
    cases stopped with
    | true => exact Action.Leads.pure fun m hm => ⟨s, k, d, hm.1, hm.2.1 rfl, by omega⟩
    | false =>
      simp only [Bool.false_eq_true, if_false, Solver.limitReached, pure_bind, false_iff]
      rintro m ⟨hm, hgoes⟩
      refine ((leads_advance hsmooth honly hc hcounts hbound s k).bind fun _ => ?_) m hm
      rintro m' ⟨s', k', hs', hprogress⟩
      -- A lower height makes up for all the rejections that are tolerated anew.
      have hless : height s' * n + (n - k') + 1 ≤ height s * n + (n - k) := by
        rcases hprogress with ⟨hbetter, rfl⟩ | ⟨rfl, rfl⟩
        · have hlower := hheight s' s hs'.property hm.property hbetter
          have hmul := Nat.mul_le_mul_right n hlower
          rw [Nat.succ_mul] at hmul
          omega
        · omega
      refine ((ih (count + 1) s' k' (by omega)).imp (fun _ h => h) ?_) m' hs'
      rintro _ m'' ⟨s'', k'', d'', hs'', hn, hd⟩
      exact ⟨s'', k'', d'', hs'', hn, by omega⟩

/-- A run that was started, and that stops after `n` rejections in a row, ends. -/
theorem leads_excursion (hc : c.Answers P R) (hcounts : c.counts) {height : S → Nat} {top : Nat}
    (hheight : ∀ a b, P a → P b → R a b → height a < height b) (htop : ∀ s, P s → height s < top)
    {stop : StopId} {n : Nat} (hstop : cast.stop stop = .stagnant n) {fuel : Nat}
    (hsize : size < fuel) (hfuel : top * n < fuel) (s : S) (k : Nat) :
    Action.Leads (Poised factory c g I P size d s k)
      (Solver.excursion LocalSearch.method cast serve fuel stop none)
      (fun _ m => ∃ s' k' d', Poised factory c g I P size d' s' k' m ∧ n ≤ k' ∧ d' ≤ d + top * n)
      Halt.ByCost := by
  have hget : ∀ s k d, Action.Leads (Poised factory c g I P size d s k)
      (get : Action W (LocalSearch W S) S (Machine W (LocalSearch W S) S))
      (fun _ => Poised factory c g I P size d s k) Halt.ByCost := fun _ _ _ _ hm => hm
  have hlog : ∀ text s k d, Action.Leads (Poised factory c g I P size d s k)
      (Action.log Level.info .lifecycle text []) (fun _ => Poised factory c g I P size d s k)
      Halt.ByCost := fun text s k d =>
    Action.KeepsSolver.leads (fun m _ => .log _ _ text []) (fun m hm => hm.steady)
      fun m m' hm => hm.solverKept
  intro m hm
  have hbudget : height s * n + (n - k) ≤ top * n := by
    have hmul := Nat.mul_le_mul_right n (htop s hm.property)
    rw [Nat.succ_mul] at hmul
    omega
  refine ((hget s k d).bind fun _ => (hlog _ s k d).bind fun _ =>
    (leads_laps hsmooth honly hc hcounts hheight hstop hsize 0 s k (by omega)).bind
      fun count => ?_) m hm
  rintro m' ⟨s', k', d', hs', hn, hd⟩
  exact (((hget s' k' d').bind fun _ => hlog _ s' k' d').imp (fun _ h => h)
    fun _ _ h => ⟨s', k', d', h, hn, by omega⟩) m' hs'

/-- A run that stops after `n` rejections in a row ends, whether it finds the search ready or has to
    start it. -/
theorem leads_runUntil (hc : c.Answers P R) (hcounts : c.counts) {height : S → Nat} {top : Nat}
    (hheight : ∀ a b, P a → P b → R a b → height a < height b) (htop : ∀ s, P s → height s < top)
    {stop : StopId} {n : Nat} (hstop : cast.stop stop = .stagnant n) {fuel : Nat}
    (hsize : size < fuel) (hfuel : top * n < fuel) :
    Action.Leads
      (fun m => Provided factory c g I size d m ∧
        (m.solver.phase = .ready → ∃ s k, Poised factory c g I P size d s k m))
      (Solver.runUntil LocalSearch.method cast serve fuel stop none)
      (fun _ m => ∃ s k d', Poised factory c g I P size d' s k m ∧ n ≤ k ∧ d' ≤ d + top * n)
      Halt.ByCost := by
  have hexcursion : ∀ s k, Action.Leads (Poised factory c g I P size d s k)
      (Solver.excursion LocalSearch.method cast serve fuel stop none) _ Halt.ByCost :=
    leads_excursion hsmooth honly hc hcounts hheight htop hstop hsize hfuel
  rintro m ⟨hm, hready⟩
  rw [Solver.runUntil_eq, Action.run_bind, Action.run_get]
  dsimp only
  split
  · refine ((leads_begin hsmooth honly hsize).bind fun _ => ?_) m hm
    rintro m' ⟨s, hs⟩
    exact hexcursion s 0 m' hs
  · rename_i hphase
    obtain ⟨s, k, hs⟩ := hready (by simpa using hphase)
    exact hexcursion s k m hs

end

/-! ## Sessions -/

variable {κ : Type}

/-- A search whose decisions were all those of the strict rule with a comparator (`Governed`), and
    whose solutions were all made by one factory (`Supplied`). -/
structure Climbing (factory : Factory W S) (c : Comparator W S) (P : S → Prop) (level : Int)
    (m : Machine W (LocalSearch W S) S) : Prop where
  governed : Governed (.strict (some c)) level m
  supplied : Supplied factory P m

/-- Every session leaves a new search climbing. -/
theorem climbing_of_session (cast : Cast W S) (fuel : Nat) (caller : Program W S α)
    {m m' : Machine W (LocalSearch W S) S} (hfresh : m.Fresh) {factory : Factory W S}
    {c : Comparator W S} (hnew : m.solver.inner = .new (some factory) (some c) none)
    {P : S → Prop} (honly : factory.MakesOnly P)
    (hrun : ((caller.play LocalSearch.method
      (Solver.serve LocalSearch.method cast fuel)).runOn m).2 = m') :
    Climbing factory c P m.level m' := by
  have hgoverned := (Governed.lasting (.strict (some c)) m.level).holds cast fuel caller
    ⟨hfresh.standing, by rw [hnew]; rfl, by rw [hfresh.past]; exact .nil⟩
  have horderly : Orderly m := hfresh.orderly (by rw [hnew]; exact LocalSearch.plain_new _ _ _)
  have hsupplied : Supplied factory P m := ⟨horderly, by rw [hnew]; rfl, by simp [hfresh.past]⟩
  obtain ⟨turns, hturns⟩ := Solver.unfolds_session cast fuel caller m
  rw [hrun] at hgoverned hturns
  exact ⟨hgoverned, (hturns.keeps (fun _ _ h => h.idle) (fun _ h => h.turn honly) hsupplied).1⟩

namespace Climbing

variable {factory : Factory W S} {c : Comparator W S} {level : Int}
  {m : Machine W (LocalSearch W S) S}

/-- At every moment of its history the search has descended. -/
theorem descends {keys : Finset κ} {key : S → κ} {R : κ → κ → Bool}
    (h : Climbing factory c (key · ∈ keys) level m) (hR : StrictOn (· ∈ keys) R)
    (hc : c.Answers (key · ∈ keys) fun a b => R (key a) (key b)) (hcounts : c.counts)
    {before : List (Entry S)} (hbefore : before <+: m.past) {st : Stretch S}
    (hst : stretchOf before = some st) : st.Descends keys key := by
  obtain ⟨after, hpast⟩ := hbefore
  have hruled := h.governed.ruled
  have hcommits := h.supplied.commits
  rw [← hpast] at hruled hcommits
  have hkeys := generated_of_commits (List.forall_mem_append.1 hcommits).1 hst
  exact (hc.keyed hcounts (ruled_of_everywhere hruled.of_append hst) hkeys).descends hR hkeys

theorem provided {P : S → Prop} (h : Climbing factory c P level m) {I : W → Generators → Prop}
    (hI : I m.world m.generators) :
    Provided factory c m.solver.generator I m.solver.observers.size m.strides m :=
  ⟨h.supplied.plain, h.supplied.factory, h.governed.acceptance, rfl, rfl, hI, rfl⟩

/-- A search that is ready is where its last stretch has led to. -/
theorem poised {P : S → Prop} (h : Climbing factory c P level m) {I : W → Generators → Prop}
    (hI : I m.world m.generators) (hcount : ∀ e ∈ m.past, e.isOverwriting = false)
    (hready : m.solver.phase = .ready) :
    ∃ s k, Poised factory c m.solver.generator I P m.solver.observers.size m.strides s k m := by
  have hlocated := h.governed.shown.located
  obtain ⟨st, hst⟩ := hlocated.stretch hready
  have hruled := ruled_of_everywhere h.governed.ruled hst
  have hP := generated_of_commits h.supplied.commits hst _ (Stretch.current_mem_generated hruled)
  have hstagnation := hlocated.stagnation_of_stretch hcount hst
  exact ⟨st.current, st.rejections, h.provided hI, hready, hlocated.current_of_stretch hst, hP,
    Option.some.inj hstagnation⟩

end Climbing

/-- A search whose comparator is a strict partial order on the keys of all solutions that its
    factory makes accepts fewer neighbours than there are keys and never returns to a key that it
    has left (`Stretch.Descends`). If nothing that it asks of others fails (`Smooth`), then a run
    that stops after `n` rejections in a row returns after at most `n` steps for each key, wherever
    it begins. -/
theorem stagnation_stops_runs (cast : Cast W S) (fuel : Nat) (caller : Program W S α)
    {m m' : Machine W (LocalSearch W S) S} (hfresh : m.Fresh) {factory : Factory W S}
    {c : Comparator W S} (hnew : m.solver.inner = .new (some factory) (some c) none)
    {keys : Finset κ} {key : S → κ} {R : κ → κ → Bool} (hR : StrictOn (· ∈ keys) R)
    (hc : c.Answers (key · ∈ keys) fun a b => R (key a) (key b)) (hcounts : c.counts)
    (honly : factory.MakesOnly (key · ∈ keys))
    (hrun : ((caller.play LocalSearch.method
      (Solver.serve LocalSearch.method cast fuel)).runOn m).2 = m')
    (hcount : ∀ e ∈ m'.past, e.isOverwriting = false) :
    (∀ before, before <+: m'.past → ∀ st, stretchOf before = some st → st.Descends keys key) ∧
      EverySight (fun before _ seen => seen.current = (stretchOf before).map Stretch.current)
        m'.past ∧
      m'.solver.inner.current = (stretchOf m'.past).map Stretch.current ∧
      ∀ I, Smooth cast factory c m'.solver.generator (key · ∈ keys) I →
        I m'.world m'.generators → ∀ stop n, cast.stop stop = .stagnant n →
        ∀ fuel', keys.card * n + m'.solver.observers.size + 2 ≤ fuel' →
        ∀ result m'', (Solver.serve LocalSearch.method cast fuel' (.run stop none)).runOn m'
            = (result, m'') →
          CostsKnown m''.past → result = .ok () ∧ (n : Int) ≤ m''.solver.inner.stagnation ∧
            m''.strides ≤ m'.strides + keys.card * n := by
  have hclimbing := climbing_of_session cast fuel caller hfresh hnew honly hrun
  have hstanding := hclimbing.governed.toStanding
  refine ⟨fun before hbefore st hst => hclimbing.descends hR hc hcounts hbefore hst,
    fun before e after hsplit seen hseen => ?_, hstanding.shown.located.current, ?_⟩
  · exact (hstanding.sights before e after hsplit seen hseen).located.current
  intro I hsmooth hI stop n hstop fuel' hfuel result m'' hserve hknown
  obtain ⟨fuel', rfl⟩ : ∃ f, fuel' = f + 1 := ⟨fuel' - 1, by omega⟩
  -- The height of a solution is the rank of its key.
  have hends : Action.After
      ((Solver.serve LocalSearch.method cast (fuel' + 1) (.run stop none)).runOn m') _
      Halt.ByCost :=
    leads_runUntil hsmooth honly hc hcounts (fun a b ha hb => rank_lt hR hb ha)
      (fun s hs => rank_lt_card hR hs) hstop (by omega) (by omega) m'
      ⟨hclimbing.provided hI, hclimbing.poised hI hcount⟩
  rw [hserve] at hends
  rcases result with halt | u
  · exact absurd hknown hends.2
  · obtain ⟨s, k, d, hpoised, hn, hd⟩ := hends
    refine ⟨rfl, ?_, ?_⟩
    · rw [hpoised.stagnation]
      exact Int.ofNat_le.2 hn
    · rw [hpoised.strides]
      exact hd

/-! ## A stair -/

/-- A solution at a height, which is also its cost. -/
structure Stair where
  height : Nat

namespace Stair

instance : Candidate Stair where
  costs s := .ok (.int s.height)
  text _ := ""
  preference _ _ := .lowerCost

/-- Lower is better. -/
def comparator : Comparator Nat Stair := .custom true fun a b => return decide (a.height < b.height)

/-- Hands out a stair of the lowest three after the other, from the highest one on. -/
def next : Hook Nat Stair Stair := do
  let n ← Hook.world
  Hook.change (· + 1)
  return ⟨2 - n % 3⟩

def factory : Factory Nat Stair := ⟨fun _ => next, fun _ _ => next⟩

/-- The machine of a new search on the stairs. -/
def machine : Machine Nat (LocalSearch Nat Stair) Stair :=
  ⟨⟨"", 0, 0, #[0], 0, .uninitialized, .new (some factory) (some comparator) none⟩,
    0, #[], {}, #[], #[], Level.info⟩

end Stair

/-- All observers record, and a stop condition waits for as many rejections as its number says. -/
def Cast.patient : Cast W S := ⟨fun _ => .recorder, .stagnant⟩

/-- A started search goes down to the lowest stair, and rejects two more. -/
theorem stagnation_stops_runs_stairs :
    let caller : Program Nat Stair Unit := Program.calling .start
    let m' := ((caller.play LocalSearch.method
      (Solver.serve LocalSearch.method Cast.patient 3)).runOn Stair.machine).2
    let outcome := (Solver.serve LocalSearch.method Cast.patient 9 (.run 2 none)).runOn m'
    outcome.1 = .ok () ∧ 2 ≤ outcome.2.solver.inner.stagnation ∧ outcome.2.strides = 4 ∧
      outcome.2.strides ≤ m'.strides + 3 * 2 := by
  intro caller m' outcome
  have hR : StrictOn (· ∈ Finset.range 3) fun a b => decide (a < b) := by
    constructor <;> simp <;> omega
  have hmakes : ∀ state, (Stair.next.runAt state).1 = .ok ⟨2 - state.world % 3⟩ := fun _ => rfl
  have honly : Stair.factory.MakesOnly fun s => s.height ∈ Finset.range 3 := by
    refine ⟨fun g state s hs => ?_, fun current g state s hs => ?_⟩
    all_goals
      obtain rfl := Except.ok.inj ((hmakes state).symm.trans hs)
      refine Finset.mem_range.2 ?_
      dsimp only
      omega
  have hsmooth : Smooth Cast.patient Stair.factory Stair.comparator m'.solver.generator
      (fun s => s.height ∈ Finset.range 3) fun _ _ => True := by
    refine ⟨?_, ?_, ?_, ?_⟩
    · exact fun _ _ _ => ⟨_, _, rfl, trivial⟩
    · exact fun _ _ _ _ _ => ⟨_, _, rfl, trivial⟩
    · exact fun _ _ _ _ _ _ _ => ⟨_, _, rfl, trivial⟩
    · exact fun _ _ h => nomatch h
  have hcount : ∀ e ∈ m'.past, e.isOverwriting = false := by decide +kernel
  have hfuel : 3 * 2 + m'.solver.observers.size + 2 ≤ 9 := by decide +kernel
  have hrun : ((caller.play LocalSearch.method
      (Solver.serve LocalSearch.method Cast.patient 3)).runOn Stair.machine).2 = m' := rfl
  have hstops := stagnation_stops_runs Cast.patient 3 caller ⟨rfl, rfl, rfl, rfl, rfl⟩ rfl hR
    (fun _ _ _ _ _ => rfl) rfl honly hrun hcount
  obtain ⟨hreturns, hstagnation, hsteps⟩ := hstops.2.2.2 _ hsmooth trivial 2 2 rfl 9 hfuel
    outcome.1 outcome.2 (Prod.eta outcome).symm fun s _ => ⟨_, rfl⟩
  exact ⟨hreturns, hstagnation, by decide +kernel, hsteps⟩

end HillClimb
