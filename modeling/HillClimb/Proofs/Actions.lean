import HillClimb.Solver.Lifecycle

set_option autoImplicit false

/-! # Rules for hooks and actions

What an action does to a machine is told by triples: from every machine with one property the action
returns with another, or halts with a third (`Action.Leads`). The rules below follow the ways in
which actions are put together: `Leads.bind` goes along `>>=`, and `Keeps.attempt` past a failure
that is caught.

`Action.Keeps` is the triple of an invariant: an action that returns or fails leaves the invariant
`P` as it found it, and one that remains unfinished leaves at least a weaker property `U`. What the
outcome of one particular run has is an `Action.After`. -/

namespace HillClimb

variable {W I S α β : Type}

/-- One failing computation on a state after another: `>>=` as `run` sees it. -/
theorem run_bind_state {σ ε : Type} (x : ExceptT ε (StateM σ) α) (f : α → ExceptT ε (StateM σ) β)
    (s : σ) : ExceptT.run (x >>= f) s = match ExceptT.run x s with
      | (.ok a, s') => ExceptT.run (f a) s'
      | (.error e, s') => (.error e, s') := by
  rw [ExceptT.run_bind]
  simp only [bind, StateT.bind]
  rcases x.run s with ⟨a | e, s'⟩ <;> rfl

namespace Hook

/-! ## Running hooks -/

theorem run_bind (x : Hook W S α) (f : α → Hook W S β) (state : HookState W S) :
    (x >>= f).runAt state = match x.runAt state with
      | (.ok a, state') => (f a).runAt state'
      | (.error cause, state') => (.error cause, state') := by
  change ExceptT.run (x >>= f) state = _
  rw [run_bind_state, runAt]
  rcases x.run state with ⟨a | cause, state'⟩ <;> rfl

theorem run_ask (p : Probe S) (state : HookState W S) :
    (ask p).runAt state = (.ok (), { state with probes := state.probes.push p }) := rfl

theorem run_ofExcept (result : Except Failure α) (state : HookState W S) :
    (ofExcept result : Hook W S α).runAt state = (result, state) := rfl

theorem run_costs [Candidate S] (s : S) (state : HookState W S) :
    (costs s).runAt state
      = (Candidate.costs s, { state with probes := state.probes.push (.costs s) }) := rfl

end Hook

namespace Recording

/-! ## Running recordings -/

theorem run_change (f : Trajectory → Trajectory) (state : RecordingState S) :
    ExceptT.run (change f) state
      = (.ok (), { state with trajectory := f state.trajectory }) := rfl

theorem run_costs [Candidate S] (s : S) (state : RecordingState S) :
    ExceptT.run (costs (some s)) state
      = (Candidate.costs s, { state with probes := state.probes.push (.costs s) }) := rfl

end Recording

/-- What a hook returns is returned. -/
@[simp] theorem mapError_failed_ok (a : α) :
    Except.mapError Halt.failed (.ok a : Except Failure α) = .ok a := rfl

/-- A hook that fails makes the action fail. -/
@[simp] theorem mapError_failed_error (cause : Failure) :
    Except.mapError Halt.failed (.error cause : Except Failure α) = .error (.failed cause) := rfl

/-- The machine with one more record of the lifecycle in its journal, if records of `Level.info` are
    written. -/
def Machine.logged (m : Machine W I S) (message : String) : Machine W I S :=
  if m.level ≤ Level.info then
    { m with journal := m.journal.push ⟨Level.info, .lifecycle, message, []⟩ }
  else m

/-- Nothing but the journal is written to. -/
theorem Machine.logged_eq (m : Machine W I S) (message : String) :
    ∃ journal, m.logged message = { m with journal } := by
  unfold logged
  split
  · exact ⟨_, rfl⟩
  · exact ⟨m.journal, rfl⟩

namespace Action

/-! ## Running actions -/

theorem run_bind (x : Action W I S α) (f : α → Action W I S β) (m : Machine W I S) :
    (x >>= f).runOn m = match x.runOn m with
      | (.ok a, m') => (f a).runOn m'
      | (.error h, m') => (.error h, m') := by
  change ExceptT.run (x >>= f) m = _
  rw [run_bind_state, runOn]
  rcases x.run m with ⟨a | h, m'⟩ <;> rfl

theorem run_pure (a : α) (m : Machine W I S) : (pure a : Action W I S α).runOn m = (.ok a, m) := rfl

theorem run_get (m : Machine W I S) :
    (get : Action W I S (Machine W I S)).runOn m = (.ok m, m) := rfl

theorem run_throw (h : Halt) (m : Machine W I S) :
    (throw h : Action W I S α).runOn m = (.error h, m) := rfl

theorem run_fail (cause : Failure) (m : Machine W I S) :
    (fail cause : Action W I S α).runOn m = (.error (.failed cause), m) := rfl

theorem run_note (e : Entry S) (m : Machine W I S) :
    (note e).runOn m = (.ok (), { m with transcript := m.transcript.push e }) := rfl

theorem run_changeSolver (f : Solver I → Solver I) (m : Machine W I S) :
    (changeSolver f).runOn m = (.ok (), { m with solver := f m.solver }) := rfl

theorem run_log (level : Int) (source : LogSource) (message : String)
    (arguments : List (Option String)) (m : Machine W I S) :
    (log level source message arguments).runOn m
      = (.ok (), if m.level ≤ level then
          { m with journal := m.journal.push ⟨level, source, message, arguments⟩ } else m) := rfl

theorem run_log_lifecycle (message : String) (m : Machine W I S) :
    (log Level.info .lifecycle message []).runOn m = (.ok (), m.logged message) := rfl

theorem run_noteSeen (method : Method W I S) (entry : Sight S → Entry S) (m : Machine W I S) :
    (method.noteSeen entry).runOn m
      = (.ok (), { m with transcript := m.transcript.push (entry (method.sight m)) }) := rfl

theorem run_hook (h : Hook W S α) (m : Machine W I S) :
    (hook h).runOn m
      = ((h.runAt ⟨m.world, m.generators, #[]⟩).1.mapError Halt.failed,
          let state := (h.runAt ⟨m.world, m.generators, #[]⟩).2
          { m with
            world := state.world
            generators := state.generators
            transcript := m.transcript ++ state.probes.map Entry.probed }) := rfl

/-- A hook returns what it answers at the `HookState` that is made for it. -/
theorem answer_of_hook {h : Hook W S α} {m m' : Machine W I S} {a : α}
    (hrun : (hook h).runOn m = (.ok a, m')) : (h.runAt ⟨m.world, m.generators, #[]⟩).1 = .ok a := by
  rw [run_hook] at hrun
  cases hr : (h.runAt ⟨m.world, m.generators, #[]⟩).1 <;> simp_all

theorem run_hook_costs [Candidate S] (s : S) (m : Machine W I S) :
    (hook (Hook.costs s) : Action W I S Value).runOn m
      = ((Candidate.costs s).mapError Halt.failed,
          { m with transcript := m.transcript.push (.probed (.costs s)) }) := by
  simp [run_hook, Hook.run_costs]

theorem run_attempt (x : Action W I S α) (m : Machine W I S) :
    (attempt x).runOn m = match x.runOn m with
      | (.ok a, m') => (.ok (.ok a), m')
      | (.error (.failed cause), m') => (.ok (.error cause), m')
      | (.error .unfinished, m') => (.error .unfinished, m') := rfl

/-- What `Action.record` does: the questions asked for it are added to the transcript, and nothing
    but the recording of the observer is changed. -/
theorem run_record [Candidate S] (method : Method W I S) (o : ObserverId) (news : News S)
    (m : Machine W I S) :
    (record method o news).runOn m =
      (((Recording.record (method.current m.solver.inner) news).run
          ⟨m.recordings.of o, #[]⟩).1.mapError Halt.failed,
        let state := ((Recording.record (method.current m.solver.inner) news).run
          ⟨m.recordings.of o, #[]⟩).2
        { m with
          recordings := (m.recordings.take o).2.put o state.trajectory
          transcript := m.transcript ++ state.probes.map Entry.probed }) := rfl

theorem ended_record [Candidate S] (method : Method W I S) (o : ObserverId) (news : News S)
    (m : Machine W I S) : ((record method o news).runOn m).1 ≠ .error .unfinished := by
  rw [run_record]
  rcases ((Recording.record (method.current m.solver.inner) news).run
    ⟨m.recordings.of o, #[]⟩).1 with cause | u <;> simp

/-! ## Triples -/

/-- What holds of the outcome: `Q` if the action returned, `E` if it halted. -/
def After (outcome : Except Halt α × Machine W I S) (Q : α → Machine W I S → Prop)
    (E : Halt → Machine W I S → Prop) : Prop :=
  match outcome with
  | (.ok a, m) => Q a m
  | (.error h, m) => E h m

/-- From every machine with `P` the action returns with `Q`, or halts with `E`. This is the `After`
    of every outcome. -/
def Leads (P : Machine W I S → Prop) (x : Action W I S α) (Q : α → Machine W I S → Prop)
    (E : Halt → Machine W I S → Prop) : Prop :=
  ∀ m, P m → After (x.runOn m) Q E

section

variable {P P' : Machine W I S → Prop} {Q Q' R : α → Machine W I S → Prop}
  {E : Halt → Machine W I S → Prop} {x : Action W I S α}

theorem Leads.bind {Q : β → Machine W I S → Prop} {f : α → Action W I S β} (hx : Leads P x R E)
    (hf : ∀ a, Leads (R a) (f a) Q E) : Leads P (x >>= f) Q E := by
  intro m hP
  have hafter := hx m hP
  rw [run_bind]
  rcases hxm : x.runOn m with ⟨h | a, m'⟩ <;> rw [hxm] at hafter
  · exact hafter
  · exact hf a m' hafter

theorem Leads.imp (hx : Leads P x Q E) (hP : ∀ m, P' m → P m) (hQ : ∀ a m, Q a m → Q' a m) :
    Leads P' x Q' E := by
  intro m hm
  have hafter := hx m (hP m hm)
  rcases hxm : x.runOn m with ⟨h | a, m'⟩ <;> rw [hxm] at hafter
  · exact hafter
  · exact hQ a m' hafter

theorem Leads.pure {a : α} (h : ∀ m, P m → Q a m) : Leads P (pure a : Action W I S α) Q E :=
  fun m hP => h m hP

theorem Leads.throw {h : Halt} (hE : ∀ m, P m → E h m) :
    Leads P (throw h : Action W I S α) Q E :=
  fun m hP => hE m hP

end

end Action

/-! ## Invariants -/

/-- What an invariant says of a machine on which an action halted. -/
def Halt.Leaves (P U : Machine W I S → Prop) : Halt → Machine W I S → Prop
  | .failed _ => P
  | .unfinished => U

namespace Action

/-- The action keeps `P`; if it remains unfinished it leaves `U`. See `Halt.Leaves`. -/
def Keeps (P U : Machine W I S → Prop) (x : Action W I S α) : Prop :=
  Leads P x (fun _ => P) (Halt.Leaves P U)

section

variable {P U : Machine W I S → Prop} {x : Action W I S α} {m : Machine W I S}

/-- If the action ended, what holds of the machine is kept. -/
theorem after_of_ended (hend : (x.runOn m).1 ≠ .error .unfinished) (hP : P (x.runOn m).2) :
    After (x.runOn m) (fun _ => P) (Halt.Leaves P U) := by
  rcases hxm : x.runOn m with ⟨(cause | _) | a, m'⟩ <;> rw [hxm] at hend hP
  · exact hP
  · exact absurd rfl hend
  · exact hP

/-- However the action ended, what holds of the machine is kept. -/
theorem after_of_all (hP : P (x.runOn m).2) :
    After (x.runOn m) (fun _ => P) (Halt.Leaves P P) := by
  rcases hxm : x.runOn m with ⟨(cause | _) | a, m'⟩ <;> rw [hxm] at hP <;> exact hP

/-- An action that returns from every machine keeps what its effect keeps. -/
theorem Keeps.of_run {f : Machine W I S → Machine W I S} {a : α}
    (hrun : ∀ m, x.runOn m = (.ok a, f m)) (hf : ∀ m, P m → P (f m)) : Keeps P U x := by
  intro m hP
  rw [hrun m]
  exact hf m hP

theorem Keeps.bind {f : α → Action W I S β} (hx : Keeps P U x) (hf : ∀ a, Keeps P U (f a)) :
    Keeps P U (x >>= f) :=
  Leads.bind hx hf

theorem Keeps.pure (a : α) : Keeps P U (pure a : Action W I S α) :=
  Leads.pure fun _ hP => hP

theorem Keeps.fail (cause : Failure) : Keeps P U (Action.fail cause : Action W I S α) :=
  Leads.throw fun _ hP => hP

theorem Keeps.unfinished (hU : ∀ m, P m → U m) :
    Keeps P U (throw .unfinished : Action W I S α) :=
  Leads.throw hU

theorem Keeps.get : Keeps P U (get : Action W I S (Machine W I S)) :=
  fun _ hP => hP

/-- A failure that is caught by `attempt` has done no more than one that is not. -/
theorem Keeps.attempt (hx : Keeps P U x) : Keeps P U (attempt x) := by
  intro m hP
  have hafter := hx m hP
  rw [run_attempt]
  rcases hxm : x.runOn m with ⟨(cause | _) | a, m'⟩ <;> rw [hxm] at hafter <;> exact hafter

/-- What is left by an action that keeps an invariant, however it ends. -/
theorem Keeps.leaves (hx : Keeps P U x) (hU : ∀ m, P m → U m) (hP : P m) :
    U (x.runOn m).2 := by
  have hafter := hx m hP
  -- In order: the action failed, remained unfinished, or returned.
  rcases hxm : x.runOn m with ⟨(cause | _) | a, m'⟩ <;> rw [hxm] at hafter
  · exact hU m' hafter
  · exact hafter
  · exact hU m' hafter

/-- What is left by an action that keeps an invariant and ends. -/
theorem Keeps.holds (hx : Keeps P U x) (hP : P m)
    (hend : (x.runOn m).1 ≠ .error .unfinished) : P (x.runOn m).2 := by
  have hafter := hx m hP
  rcases hxm : x.runOn m with ⟨(cause | _) | a, m'⟩ <;> rw [hxm] at hafter hend
  · exact hafter
  · exact absurd rfl hend
  · exact hafter

end

end Action

/-! ## Runs -/

section

variable [Candidate S] (method : Method W I S) (cast : Cast W S)

/-- A `Solver.runUntil` from its first record on, with or without a start before it. -/
def Solver.excursion (nested : Call → Action W I S Unit) (fuel : Nat) (stop : StopId)
    (limit : Option Value) : Action W I S Unit := do
  let s := (← get).solver
  Action.log Level.info .lifecycle (s.name ++ " iniciado (seed=" ++ toString s.seed ++ ").") []
  let count ← Solver.laps method cast nested stop limit fuel fuel 0
  let s := (← get).solver
  Action.log Level.info .lifecycle
    (s.name ++ " finalizado após " ++ toString count ++ " passos.") []

theorem Solver.runUntil_eq (nested : Call → Action W I S Unit) (fuel : Nat) (stop : StopId)
    (limit : Option Value) :
    Solver.runUntil method cast nested fuel stop limit = (do
      if (← get).solver.phase ≠ .ready then
        Solver.begin method cast nested fuel
        excursion method cast nested fuel stop limit
      else
        excursion method cast nested fuel stop limit) := rfl

end

end HillClimb
