import HillClimb.Proofs.Commits
import HillClimb.Proofs.Telling

set_option autoImplicit false

/-! # Which steps are recorded as a whole

What an observer has recorded is what it was told, replayed notice by notice (`Trajectory.hearAll`).
A notice of a step asks for two costs, and records the neighbour in between. If the neighbour's cost
is not known, nothing is recorded; if only that of the current solution is not known, the step is
torn (`Step.torn`): its neighbour and its flag are recorded and its cost is not.

That is the only way in which a recording can come apart: after a start it tells of the same steps
in all three lists (`Trajectory.Aligned`) if and only if none of them was torn. The result is
`recording_is_whole_iff_no_step_torn`. -/

namespace HillClimb

variable {W S : Type} [Candidate S]

/-! ## Notices -/

/-- What an observer was told, and the solution that the search was at. -/
structure Notice (S : Type) where
  current : Option S
  news : News S
  deriving DecidableEq

/-- A step that was told of, and the solution that the search was at then. -/
structure Step (S : Type) where
  neighbor : S
  accepted : Bool
  current : Option S

/-- The notice of a step. -/
def Step.notice (step : Step S) : Notice S :=
  ⟨step.current, .stepped step.neighbor step.accepted⟩

/-- The cost of a solution, if there is one and its cost is known. -/
def costOf? : Option S → Option Value
  | none => none
  | some s => (Candidate.costs s).toOption

namespace Step

/-- The cost of the neighbour is known. -/
def heard (step : Step S) : Bool := (costOf? (some step.neighbor)).isSome

/-- The cost of the neighbour is known, but that of the current solution is not. -/
def torn (step : Step S) : Bool := step.heard && (costOf? step.current).isNone

end Step

/-- The notice that an observer was given, if any. -/
def Entry.noticeFor? (o : ObserverId) : Entry S → Option (Notice S)
  | .notified _ o' news seen => if o' = o then some ⟨seen.current, news⟩ else none
  | _ => none

/-- The notices that an observer was given, in order. -/
def noticesFor (o : ObserverId) (past : List (Entry S)) : List (Notice S) :=
  past.filterMap (Entry.noticeFor? o)

omit [Candidate S] in
theorem noticesFor_append (o : ObserverId) (past l : List (Entry S)) :
    noticesFor o (past ++ l) = noticesFor o past ++ noticesFor o l :=
  List.filterMap_append

omit [Candidate S] in
theorem noticesFor_unseen {o : ObserverId} {l : List (Entry S)} (h : ∀ e ∈ l, e.sight? = none) :
    noticesFor o l = [] := by
  refine List.filterMap_eq_nil_iff.2 fun e he => ?_
  have hunseen := h e he
  cases e <;> simp_all [Entry.sight?, Entry.noticeFor?]

/-! ## Recordings as replays -/

namespace Trajectory

/-- What a trajectory is after a notice, whether `Recording.record` failed or not. -/
def hear (t : Trajectory) (n : Notice S) : Trajectory :=
  ((Recording.record n.current n.news).run ⟨t, #[]⟩).2.trajectory

/-- What a trajectory is after some notices: `hear` for one after another. -/
def hearAll (t : Trajectory) (notices : List (Notice S)) : Trajectory := notices.foldl hear t

theorem hearAll_append (t : Trajectory) (notices notices' : List (Notice S)) :
    t.hearAll (notices ++ notices') = (t.hearAll notices).hearAll notices' :=
  List.foldl_append

theorem hear_started (t : Trajectory) (current : Option S) {s : S} {v : Value}
    (hv : Candidate.costs s = .ok v) :
    t.hear ⟨current, .started (some s)⟩ = Trajectory.empty.pushCosts v := by
  simp only [hear, Recording.record, run_bind_state, Recording.run_change, Recording.run_costs, hv]

/-- A step is recorded as far as its costs are known. -/
theorem hear_stepped (t : Trajectory) (step : Step S) :
    t.hear step.notice = match costOf? (some step.neighbor), costOf? step.current with
      | some x, some y => (t.pushNeighbor x step.accepted).pushCosts y
      | some x, none => t.pushNeighbor x step.accepted
      | none, _ => t := by
  simp only [hear, Step.notice, Recording.record, run_bind_state, Recording.run_costs, costOf?]
  cases hx : Candidate.costs step.neighbor with
  | error cause => rfl
  | ok x =>
    rcases hcurrent : step.current with _ | s
    · rfl
    · simp only [Recording.run_change, Recording.run_costs]
      cases hy : Candidate.costs s with
      | error cause => rfl
      | ok y => rfl

/-- All three lists have grown by one entry. -/
structure Grown (t t' : Trajectory) : Prop where
  costs : ∃ y, t'.costs.toList = t.costs.toList ++ [y]
  neighborCosts : ∃ x, t'.neighborCosts.toList = t.neighborCosts.toList ++ [x]
  accepted : ∃ a, t'.accepted.toList = t.accepted.toList ++ [a]

/-- A step is recorded as a whole or not at all, if and only if it is not torn. -/
theorem whole_iff (t : Trajectory) (step : Step S) :
    (t.hear step.notice = t ∨ t.Grown (t.hear step.notice)) ↔ step.torn = false := by
  rw [hear_stepped, Step.torn, Step.heard]
  cases costOf? (some step.neighbor) with
  | none => simp
  | some x =>
    cases costOf? step.current with
    | some y =>
      have hgrown : t.Grown ((t.pushNeighbor x step.accepted).pushCosts y) :=
        ⟨⟨y, Trail.toList_push _ _⟩, ⟨x, Trail.toList_push _ _⟩, ⟨_, Trail.toList_push _ _⟩⟩
      simpa using .inr hgrown
    | none =>
      simp only [Option.isSome_some, Option.isNone_none, Bool.and_self, Bool.true_eq_false,
        iff_false, not_or]
      constructor
      · intro h
        have hlength := congrArg (fun t => t.accepted.toList.length) h
        simp [pushNeighbor] at hlength
      · rintro ⟨⟨y, hy⟩, -, -⟩
        simp [pushNeighbor] at hy

/-- What some steps add to a recording: the neighbours and flags of those that were heard of, and
    the costs of those of them that were not torn. -/
theorem hearAll_steps (t : Trajectory) (steps : List (Step S)) :
    let t' := t.hearAll (steps.map Step.notice)
    let heard := steps.filter Step.heard
    t'.accepted.toList = t.accepted.toList ++ heard.map Step.accepted ∧
      t'.neighborCosts.toList.map some
        = t.neighborCosts.toList.map some ++ heard.map (fun step => costOf? (some step.neighbor)) ∧
      t'.costs.toList = t.costs.toList ++ heard.filterMap fun step => costOf? step.current := by
  induction steps generalizing t with
  | nil => simp [hearAll]
  | cons step steps ih =>
    obtain ⟨haccepted, hneighbors, hcosts⟩ := ih (t.hear step.notice)
    rw [List.map_cons, show t.hearAll (step.notice :: steps.map Step.notice)
      = (t.hear step.notice).hearAll (steps.map Step.notice) from rfl]
    dsimp only
    rw [haccepted, hneighbors, hcosts, hear_stepped]
    cases hx : costOf? (some step.neighbor) with
    | none =>
      have hheard : step.heard = false := by rw [Step.heard, hx, Option.isSome_none]
      rw [List.filter_cons_of_neg (by simp [hheard])]
      exact ⟨rfl, rfl, rfl⟩
    | some x =>
      have hheard : step.heard = true := by rw [Step.heard, hx, Option.isSome_some]
      rw [List.filter_cons_of_pos hheard, List.filterMap_cons]
      cases costOf? step.current with
      | none => simp [pushNeighbor, hx]
      | some y => simp [pushNeighbor, pushCosts, hx]

/-- The recording tells of the same steps in all its lists: the neighbour costs and flags at a place
    and the cost at the next one belong to the same step, and the first cost is the initial one. -/
def Aligned (t : Trajectory) (initial : S) (steps : List (Step S)) : Prop :=
  ∃ kept : List (Step S), kept.Sublist steps ∧
    t.accepted.toList = kept.map Step.accepted ∧
    t.neighborCosts.toList.map some = kept.map (fun step => costOf? (some step.neighbor)) ∧
    t.costs.toList.map some = costOf? (some initial) :: kept.map fun step => costOf? step.current

/-- The recording has one cost more than neighbours, and as many flags. -/
theorem Aligned.lengths {t : Trajectory} {initial : S} {steps : List (Step S)}
    (h : t.Aligned initial steps) :
    t.neighborCosts.toList.length = t.accepted.toList.length ∧
      t.costs.toList.length = t.accepted.toList.length + 1 := by
  obtain ⟨kept, -, haccepted, hneighbors, hcosts⟩ := h
  have hlengthN := congrArg List.length hneighbors
  have hlengthC := congrArg List.length hcosts
  rw [List.length_map, List.length_map] at hlengthN
  rw [List.length_map, List.length_cons, List.length_map] at hlengthC
  rw [haccepted, List.length_map]
  exact ⟨hlengthN, hlengthC⟩

/-- After a start that was recorded, the recording is `Aligned` if and only if no step was torn. -/
theorem aligned_iff (t : Trajectory) (current : Option S) {s : S}
    (hs : ∃ v, Candidate.costs s = .ok v) (steps : List (Step S)) :
    ((t.hear ⟨current, .started (some s)⟩).hearAll (steps.map Step.notice)).Aligned s steps ↔
      ∀ step ∈ steps, step.torn = false := by
  obtain ⟨v, hv⟩ := hs
  rw [hear_started t current hv]
  obtain ⟨haccepted, hneighbors, hcosts⟩ := hearAll_steps (Trajectory.empty.pushCosts v) steps
  generalize (Trajectory.empty.pushCosts v).hearAll (steps.map Step.notice) = t'
    at haccepted hneighbors hcosts ⊢
  constructor
  · -- A torn step has a flag, but no cost.
    intro h
    have hlength := h.lengths.2
    rw [hcosts, haccepted] at hlength
    have hknown : ∀ step ∈ steps.filter Step.heard, (costOf? step.current).isSome := by
      refine List.filterMap_length_eq_length.1 ?_
      simpa [empty, pushCosts, Nat.add_comm 1] using hlength
    intro step hstep
    by_cases hheard : step.heard
    · have hsome := hknown step (List.mem_filter.2 ⟨hstep, hheard⟩)
      rw [Step.torn, Option.isNone_eq_false_iff.2 hsome, Bool.and_false]
    · rw [Step.torn, Bool.eq_false_iff.2 hheard, Bool.false_and]
  · intro hwhole
    refine ⟨steps.filter Step.heard, List.filter_sublist, haccepted, hneighbors, ?_⟩
    have hknown : ∀ step ∈ steps.filter Step.heard, (costOf? step.current).isSome := by
      intro step hstep
      obtain ⟨hmem, hheard⟩ := List.mem_filter.1 hstep
      have hnot := hwhole step hmem
      rw [Step.torn, hheard, Bool.true_and] at hnot
      exact Option.isNone_eq_false_iff.1 hnot
    have hlisted : ((steps.filter Step.heard).filterMap fun step => costOf? step.current).map some
        = (steps.filter Step.heard).map fun step => costOf? step.current := by
      rw [List.map_filterMap_some_eq_filter_map_isSome, List.filter_eq_self]
      exact List.forall_mem_map.2 hknown
    rw [hcosts, List.map_append, hlisted, costOf?, hv]
    rfl

/-- The recording is what some notices have made of an older one; and after a start that was
    recorded it is `Aligned` if and only if no step was torn since. -/
structure Sound (t old : Trajectory) (notices : List (Notice S)) : Prop where
  replayed : t = old.hearAll notices
  aligned_iff : ∀ earlier current s steps,
    notices = earlier ++ ⟨current, .started (some s)⟩ :: steps.map Step.notice →
      (∃ v, Candidate.costs s = .ok v) → (t.Aligned s steps ↔ ∀ step ∈ steps, step.torn = false)

theorem sound_of_hearAll {t old : Trajectory} {notices : List (Notice S)}
    (h : t = old.hearAll notices) : t.Sound old notices := by
  refine ⟨h, fun earlier current s steps hnotices hs => ?_⟩
  rw [h, hnotices, hearAll_append]
  exact aligned_iff _ current hs steps

end Trajectory

/-! ## Recordings in a session -/

/-- The recording of an observer is what it was told, replayed; so it was whenever somebody
    looked. -/
structure Replayed (o : ObserverId) (old : Trajectory) (m : Machine W (LocalSearch W S) S) :
    Prop where
  now : m.recordings.of o = old.hearAll (noticesFor o m.past)
  sights : EverySight (fun before _ seen =>
    seen.recordings.of o = old.hearAll (noticesFor o before)) m.past

namespace Replayed

variable {o : ObserverId} {old : Trajectory} {m m' : Machine W (LocalSearch W S) S}

theorem unseen (h : Replayed o old m) (hunseen : m.Unseen m') : Replayed o old m' := by
  obtain ⟨l, hl, hpast⟩ := hunseen.past
  refine ⟨?_, hunseen.sights h.sights⟩
  rw [hunseen.recordings, hpast, noticesFor_append, noticesFor_unseen fun e he => (hl e he).1,
    List.append_nil]
  exact h.now

theorem aside (h : Replayed o old m) (ha : m.Aside m') : Replayed o old m' :=
  h.unseen (.of_aside ha)

/-- A look of somebody else finds the recording as it is. -/
theorem glimpsed (h : Replayed o old m) {entry : Sight S → Entry S}
    (hentry : ∀ seen, (entry seen).sight? = some seen)
    (hother : ∀ seen, (entry seen).noticeFor? o = none) : Replayed o old (m.glimpsed entry) := by
  refine ⟨?_, h.sights.glimpsed hentry h.now⟩
  rw [Machine.past_glimpsed, noticesFor_append,
    show noticesFor o [entry (LocalSearch.method.sight m)] = [] from
      List.filterMap_eq_nil_iff.2 fun e he => by rw [List.mem_singleton.1 he]; exact hother _,
    List.append_nil]
  exact h.now

theorem overwritten (h : Replayed o old m) (n : Int) : Replayed o old (m.overwritten n) := by
  refine ⟨?_, h.sights.overwritten n⟩
  rw [Machine.past_overwritten, noticesFor_append,
    noticesFor_unseen (l := [.overwritten n]) (by simp [Entry.sight?]), List.append_nil]
  exact h.now

/-- The observer records what it is told. -/
theorem recorded (h : Replayed o old m) (place : Nat) (news : News S) :
    Replayed o old ((Action.record LocalSearch.method o news).runOn
      (m.glimpsed (.notified place o news))).2 := by
  obtain ⟨r, ha⟩ := Action.aside_record LocalSearch.method o news
    (m.glimpsed (.notified place o news))
  obtain ⟨work, hwork, hpast⟩ := ha.past
  have hunseen : ∀ e ∈ work, e.sight? = none := fun e he => Entry.sight?_of_isWork (hwork e he)
  have hpast' : ((Action.record LocalSearch.method o news).runOn
      (m.glimpsed (.notified place o news))).2.past
        = (m.past ++ [.notified place o news (LocalSearch.method.sight m)]) ++ work :=
    hpast.trans (congrArg (· ++ work) (Machine.past_glimpsed m _))
  refine ⟨?_, ?_⟩
  · rw [hpast', noticesFor_append, noticesFor_append, noticesFor_unseen hunseen, List.append_nil,
      Trajectory.hearAll_append, ← h.now, recordings_of_record, if_pos rfl]
    rw [show noticesFor o [Entry.notified place o news (LocalSearch.method.sight m)]
      = [⟨m.solver.inner.current, news⟩] from by simp [noticesFor, Entry.noticeFor?]; rfl]
    rfl
  · rw [hpast', ← Machine.past_glimpsed m (.notified place o news)]
    exact (h.sights.glimpsed (fun _ => rfl) h.now).append hunseen

/-- What others record changes nothing. -/
theorem record_other (h : Replayed o old m) {o' : ObserverId} (hother : o' ≠ o) (news : News S) :
    Replayed o old ((Action.record LocalSearch.method o' news).runOn m).2 := by
  obtain ⟨r, ha⟩ := Action.aside_record LocalSearch.method o' news m
  have hr : ((Action.record LocalSearch.method o' news).runOn m).2.recordings = r := ha.recordings
  have hrecorded : Replayed o old { m with recordings := r } := by
    refine ⟨?_, h.sights⟩
    show r.of o = _
    rw [← hr, recordings_of_record, if_neg hother]
    exact h.now
  exact hrecorded.aside ha

theorem harmless (o : ObserverId) (old : Trajectory) :
    Program.Harmless LocalSearch.method
      (Replayed o old : Machine W (LocalSearch W S) S → Prop) (Replayed o old) where
  hook x := LocalSearch.keeps_of_beside (fun _ _ h ha => h.aside ha) (.hook x)
  looked := .of_run (fun _ => rfl) fun _ h => h.glimpsed (fun _ => rfl) fun _ => rfl
  read _ := .of_run (fun _ => rfl) fun _ h => h.glimpsed (fun _ => rfl) fun _ => rfl
  resumed := .of_run (fun _ => rfl) fun _ h => h.glimpsed (fun _ => rfl) fun _ => rfl

/-- Whoever is told, the recording of the observer stays a replay. -/
theorem keeps_notify {cast : Cast W S} (hcast : cast.observer o = .recorder)
    {serve : Call → Action W (LocalSearch W S) S Unit}
    (hs : ∀ c, Action.Keeps (Replayed o old) (Replayed o old) (serve c)) (news : News S)
    (place : Nat) (o' : ObserverId) :
    Action.Keeps (Replayed o old) (Replayed o old)
      (Solver.notify LocalSearch.method cast serve news place o') := by
  intro m h
  rw [Solver.notify, Action.run_bind, Action.run_noteSeen, Solver.react]
  by_cases ho : o' = o
  · subst ho
    rw [hcast]
    exact Action.after_of_all (h.recorded place news)
  · have hglimpsed : Replayed o old (m.glimpsed (.notified place o' news)) :=
      h.glimpsed (fun _ => rfl) fun _ => if_neg ho
    cases cast.observer o' with
    | silent => exact hglimpsed
    | custom program => exact (harmless o old).play hs _ _ hglimpsed
    | recorder => exact Action.after_of_all (hglimpsed.record_other ho news)

/-- That the recording is a replay is an invariant of all calls, in the sense of `Solver.Upheld`. -/
theorem upheld {cast : Cast W S} (hcast : cast.observer o = .recorder) (old : Trajectory) :
    Solver.Upheld LocalSearch.method cast
      (Replayed o old : Machine W (LocalSearch W S) S → Prop) (Replayed o old)
      (fun _ => Replayed o old) where
  toHarmless := harmless o old
  rest _ h := h
  restDue _ _ h := h
  enter m h := Action.after_of_all (h.unseen (LocalSearch.entered_enter m).unseen)
  stride m h := Action.after_of_all (h.unseen (LocalSearch.strode_stride m).unseen)
  alone _ _ h _ := h
  first _ hs news o' := (keeps_notify hcast hs news 0 o').imp (fun _ h => h.1) fun _ _ h => h
  later _ hs news place o' :=
    (keeps_notify hcast hs news (place + 1) o').imp (fun _ h => h.1) fun _ _ h => h
  stopAsked := .of_run (fun _ => rfl) fun _ h => h.glimpsed (fun _ => rfl) fun _ => rfl
  log text := LocalSearch.keeps_of_beside (fun _ _ h ha => h.aside ha) (.log _ _ text [])
  observe _ := .of_run (fun _ => rfl) fun _ h => ⟨h.now, h.sights⟩
  overwrite n := .of_run (fun _ => rfl) fun _ h => h.overwritten n

end Replayed

/-- An observer that records, wherever it is listed and however calls nest and fail, has recorded at
    every moment what it was told up to then: its recording is `Sound`. Each notice of a step leaves
    the recording as it was or adds one entry to each of its lists, if and only if the step is not
    torn. So after a start that was recorded the recording is `Aligned`, as long as no step was torn
    since, and only so long. -/
theorem recording_is_whole_iff_no_step_torn {α : Type} (cast : Cast W S) (fuel : Nat)
    (caller : Program W S α) {m m' : Machine W (LocalSearch W S) S} (hpast : m.past = [])
    {o : ObserverId} (hcast : cast.observer o = .recorder)
    (hrun : ((caller.play LocalSearch.method
      (Solver.serve LocalSearch.method cast fuel)).runOn m).2 = m') :
    (∀ (t : Trajectory) (step : Step S),
      (t.hear step.notice = t ∨ t.Grown (t.hear step.notice)) ↔ step.torn = false) ∧
    EverySight (fun before _ seen =>
      (seen.recordings.of o).Sound (m.recordings.of o) (noticesFor o before)) m'.past ∧
    (m'.recordings.of o).Sound (m.recordings.of o) (noticesFor o m'.past) := by
  subst hrun
  have hfresh : Replayed o (m.recordings.of o) m := by
    refine ⟨?_, ?_⟩ <;> rw [hpast]
    · rfl
    · exact .nil
  have hreplayed := ((Replayed.upheld hcast (m.recordings.of o)).play fuel caller).leaves
    (fun _ h => h) hfresh
  refine ⟨Trajectory.whole_iff, fun before e after hsplit seen hseen => ?_, ?_⟩
  · exact Trajectory.sound_of_hearAll (hreplayed.sights before e after hsplit seen hseen)
  · exact Trajectory.sound_of_hearAll hreplayed.now

/-! ## A step that is torn -/

/-- The machine of a new search that starts at a cost of five and is offered a solution without a
    cost, which it takes, and then one that costs seven, which it does not. -/
def Machine.indulgent : Machine (List Bare) (LocalSearch (List Bare) Bare) Bare :=
  let m := Machine.listed [.costing 5, .failing, .costing 7] #[0] Level.info
  let rule := Acceptance.custom fun neighbor _ _ => return neighbor == .failing
  { m with solver := { m.solver with inner := { m.solver.inner with acceptance := some rule } } }

/-- A start and some steps, whether they fail or not. -/
def Program.startAndStep : Nat → Program W S Unit
  | 0 => .call .start fun _ => .done ()
  | n + 1 => (startAndStep n).bind fun _ => .call .step fun _ => .done ()

/-- The machine after a start and some steps. -/
def Machine.indulged (steps : Nat) : Machine (List Bare) (LocalSearch (List Bare) Bare) Bare :=
  (((Program.startAndStep steps).play LocalSearch.method
    (Solver.serve LocalSearch.method Cast.eager 9)).runOn Machine.indulgent).2

/-- The second step is torn, and the recording is not aligned after it. -/
theorem recording_is_whole_iff_no_step_torn_indulged :
    ¬ ((Machine.indulged 2).recordings.of 0).Aligned (Bare.costing 5)
      [⟨.failing, true, some .failing⟩, ⟨.costing 7, false, some .failing⟩] := by
  have hsound := (recording_is_whole_iff_no_step_torn Cast.eager 9 (Program.startAndStep 2)
    (m := Machine.indulgent) rfl (o := 0) rfl (rfl : _ = Machine.indulged 2)).2.2
  rw [hsound.aligned_iff [] (some (.costing 5)) (.costing 5) _ (by decide +kernel) ⟨.int 5, rfl⟩]
  decide

/-- After a start that was recorded, the second step adds to the neighbours and flags that were
    recorded, but not to the costs. -/
theorem torn_step_is_half_recorded :
    let lengths (steps : Nat) :=
      let t := (Machine.indulged steps).recordings.of 0
      (t.costs.toList.length, t.neighborCosts.toList.length, t.accepted.toList.length)
    lengths 0 = (1, 0, 0) ∧ lengths 1 = (1, 0, 0) ∧ lengths 2 = (1, 1, 1) := by
  decide +kernel

end HillClimb
