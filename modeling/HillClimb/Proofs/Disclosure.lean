import HillClimb.Proofs.Accounts
import HillClimb.Proofs.Fidelity
import HillClimb.Proofs.Turns

set_option autoImplicit false

/-! # Debugging

Records for debugging are written after a commit and show what the search costs there, so the search
asks for that cost. If no cost fails to be known, this is all that writing them does: the search
goes the same way without them, and its history with them is the one without them, where each commit
is followed by one more question (`disclosed`). A search that does not write them asks nothing on
its own account (`Accounted`).

The relation of the two searches is `Disclosed`, which calls keep (`Disclosed.paired`), and the
result is `debugging_changes_nothing`. -/

namespace HillClimb

variable {W S α : Type} [Candidate S]

/-! ## Histories with records for debugging -/

/-- Where a search is after a commit, given where it was; an entry that is no commit tells of no
    place. -/
def Entry.committed? (current : Option S) : Entry S → Option S
  | .started s => some s
  | .decided neighbor accepted => if accepted then some neighbor else current
  | _ => none

/-- Where a search has come to, given where it was. -/
def positionAfter (current : Option S) (past : List (Entry S)) : Option S :=
  past.foldl (fun current e => (e.committed? current).or current) current

/-- The history as it is if each commit is followed by the question what the search costs there, a
    `Probe.costs`. -/
def disclosed (current : Option S) : List (Entry S) → List (Entry S)
  | [] => []
  | e :: past =>
    match e.committed? current with
    | none => e :: disclosed current past
    | some s => e :: .probed (.costs s) :: disclosed (some s) past

section

omit [Candidate S]

theorem disclosed_append (current : Option S) (l l' : List (Entry S)) :
    disclosed current (l ++ l')
      = disclosed current l ++ disclosed (positionAfter current l) l' := by
  induction l generalizing current with
  | nil => rfl
  | cons e l ih =>
    rw [List.cons_append, disclosed, disclosed]
    cases he : e.committed? current with
    | none => simp [ih, positionAfter, he]
    | some s => simp [ih, positionAfter, he]

theorem positionAfter_append (current : Option S) (l l' : List (Entry S)) :
    positionAfter current (l ++ l') = positionAfter (positionAfter current l) l' :=
  List.foldl_append

theorem Entry.committed?_of_not_isCommit {e : Entry S} (h : e.isCommit = false)
    (current : Option S) : e.committed? current = none := by
  cases e <;> simp_all [isCommit, committed?]

/-- Where nothing is committed, nothing is disclosed. -/
theorem disclosed_of_not_isCommit {l : List (Entry S)} (h : ∀ e ∈ l, e.isCommit = false)
    (current : Option S) : disclosed current l = l ∧ positionAfter current l = current := by
  induction l with
  | nil => exact ⟨rfl, rfl⟩
  | cons e l ih =>
    have he := Entry.committed?_of_not_isCommit (h e List.mem_cons_self) current
    obtain ⟨hrest, hposition⟩ := ih fun e' he' => h e' (List.mem_cons_of_mem _ he')
    refine ⟨?_, ?_⟩
    · rw [disclosed, he]
      simp only [hrest]
    · rw [positionAfter, List.foldl_cons, he]
      exact hposition

end

/-! ## Two searches, one with records for debugging -/

/-- The searches are the same, but the first one writes records for debugging, and the second one
    does not. -/
structure SameButLevel (m n : Machine W (LocalSearch W S) S) : Prop where
  solver : n.solver = m.solver
  world : n.world = m.world
  generators : n.generators = m.generators
  recordings : n.recordings = m.recordings
  loud : m.level ≤ Level.debug
  quiet : Level.debug < n.level

/-- The first search discloses what it costs after each commit of the second one, and stands where
    its commits have led it (`positionAfter`). -/
structure Disclosed (m n : Machine W (LocalSearch W S) S) : Prop extends SameButLevel m n where
  past : m.past = disclosed none n.past
  length : m.past.length = n.past.length + n.past.countP Entry.isCommit
  position : m.solver.inner.current = positionAfter none n.past
  somewhere : m.solver.phase = .ready → m.solver.inner.current.isSome

namespace Disclosed

variable {m n m' n' : Machine W (LocalSearch W S) S}

omit [Candidate S] in
/-- Both searches go on with the same, and nothing is committed. -/
theorem uncommitted (h : Disclosed m n) (hsameBut : SameButLevel m' n')
    (hphase : m'.solver.phase = m.solver.phase)
    (hcurrent : m'.solver.inner.current = m.solver.inner.current) {l : List (Entry S)}
    (hl : ∀ e ∈ l, e.isCommit = false) (hpast : m'.past = m.past ++ l)
    (hpast' : n'.past = n.past ++ l) : Disclosed m' n' := by
  obtain ⟨hsame, hstay⟩ := disclosed_of_not_isCommit hl (positionAfter none n.past)
  have hnone : l.countP Entry.isCommit = 0 := List.countP_eq_zero.2 fun e he => by simp [hl e he]
  refine ⟨hsameBut, ?_, ?_, ?_, fun hready => ?_⟩
  · rw [hpast, hpast', disclosed_append, h.past, hsame]
  · rw [hpast, hpast', List.length_append, List.length_append, List.countP_append, hnone, h.length]
    omega
  · rw [hcurrent, hpast', positionAfter_append, hstay, h.position]
  · rw [hcurrent]
    exact h.somewhere (hphase ▸ hready)

omit [Candidate S] in
/-- Both searches commit, and the first one asks what it costs where it is now. -/
theorem committed (h : Disclosed m n) (hsameBut : SameButLevel m' n') {e : Entry S} {s : S}
    (he : e.committed? m.solver.inner.current = some s)
    (hcurrent : m'.solver.inner.current = some s)
    (hpast : m'.past = m.past ++ [e, .probed (.costs s)]) (hpast' : n'.past = n.past ++ [e]) :
    Disclosed m' n' := by
  rw [h.position] at he
  have hcommit : e.isCommit = true := by
    by_contra hnot
    rw [Entry.committed?_of_not_isCommit (by simpa using hnot)] at he
    cases he
  refine ⟨hsameBut, ?_, ?_, ?_, fun _ => by rw [hcurrent]; rfl⟩
  · rw [hpast, hpast', disclosed_append, h.past]
    simp [disclosed, he]
  · rw [hpast, hpast', List.length_append, List.length_append, List.countP_append, h.length]
    simp [hcommit]
    omega
  · rw [hcurrent, hpast', positionAfter_append, positionAfter, List.foldl_cons, he]
    rfl

omit [Candidate S] in
theorem asking : LocalSearch.Asking (Disclosed (W := W) (S := S)) where
  peers m n h := by
    refine ⟨h.world, h.generators, ?_, ?_, ?_⟩ <;> rw [h.solver]
  worked m n world generators work hwork h :=
    h.uncommitted ⟨h.solver, rfl, rfl, h.recordings, h.loud, h.quiet⟩ rfl rfl
      (fun e he => Entry.isCommit_of_isWork (hwork e he)) (m.past_worked _ _ _)
      (n.past_worked _ _ _)

theorem glimpsed (h : Disclosed m n) {entry : Sight S → Entry S}
    (hentry : ∀ seen, (entry seen).sight? = some seen) :
    Disclosed (m.glimpsed entry) (n.glimpsed entry) := by
  have hsight : LocalSearch.method.sight n = LocalSearch.method.sight m := by
    simp only [Method.sight, h.solver, h.recordings]
  refine h.uncommitted ⟨h.solver, h.world, h.generators, h.recordings, h.loud, h.quiet⟩ rfl rfl
    (l := [entry (LocalSearch.method.sight m)]) (fun e he => ?_) (m.past_glimpsed entry) ?_
  · rw [List.mem_singleton.1 he]
    exact (Entry.isCommit_of_sight? (hentry _)).1
  · rw [Machine.past_glimpsed, hsight]

/-- An observer records the same in both searches. -/
theorem recorded (h : Disclosed m n) (o : ObserverId) (news : News S) :
    ((Action.record LocalSearch.method o news).runOn n).1
        = ((Action.record LocalSearch.method o news).runOn m).1 ∧
      Disclosed ((Action.record LocalSearch.method o news).runOn m).2
        ((Action.record LocalSearch.method o news).runOn n).2 := by
  have hrun : (Recording.record n.solver.inner.current news).run ⟨n.recordings.of o, #[]⟩
      = (Recording.record m.solver.inner.current news).run ⟨m.recordings.of o, #[]⟩ := by
    rw [h.solver, h.recordings]
  have hsameBut : SameButLevel ((Action.record LocalSearch.method o news).runOn m).2
      ((Action.record LocalSearch.method o news).runOn n).2 := by
    refine ⟨h.solver, h.world, h.generators, ?_, h.loud, h.quiet⟩
    rw [Action.run_record, Action.run_record]
    simp only [h.solver, h.recordings]
  refine ⟨by rw [Action.result_record, Action.result_record, hrun],
    h.uncommitted hsameBut rfl rfl
      (fun e he => Entry.isCommit_of_isWork (Entry.isWork_of_mem_map_probed he))
      (Action.past_record m o news) ?_⟩
  rw [Action.past_record, hrun]

omit [Candidate S] in
theorem logged (h : Disclosed m n) (text text' : String) :
    Disclosed (m.logged text) (n.logged text') := by
  obtain ⟨journal, hm⟩ := m.logged_eq text
  obtain ⟨journal', hn⟩ := n.logged_eq text'
  rw [hm, hn]
  exact ⟨⟨h.solver, h.world, h.generators, h.recordings, h.loud, h.quiet⟩, h.past, h.length,
    h.position, h.somewhere⟩

omit [Candidate S] in
theorem observed (h : Disclosed m n) (o : ObserverId) :
    Disclosed (m.observed o) (n.observed o) := by
  refine h.uncommitted ⟨?_, h.world, h.generators, h.recordings, h.loud, h.quiet⟩ rfl rfl
    (by simp) (List.append_nil _).symm (List.append_nil _).symm
  simp only [Machine.observed, h.solver]

omit [Candidate S] in
theorem overwritten (h : Disclosed m n) (k : Int) :
    Disclosed (m.overwritten k) (n.overwritten k) := by
  refine h.uncommitted ⟨?_, h.world, h.generators, h.recordings, h.loud, h.quiet⟩ rfl rfl
    (by simp [Entry.isCommit]) (m.past_overwritten k) (n.past_overwritten k)
  simp only [Machine.overwritten, h.solver]

/-! ## Transitions -/

/-- Both searches go to the initial solution, and the first one asks what it costs. -/
theorem opening (initial : S) :
    Action.InStep (Pace.knowing fun _ => false) Disclosed Disclosed
      (fun _ => (LocalSearch.opening initial : Action W (LocalSearch W S) S (News S)))
      (LocalSearch.opening initial) fun _ => Disclosed := by
  refine ⟨fun _ => .opening initial, fun m n h => ?_⟩
  have hright : (LocalSearch.opening initial).runOn n = _ := LocalSearch.run_opening_quiet h.quiet
  cases hcost : Candidate.costs initial with
  | error cause =>
    have hleft := LocalSearch.run_opening_failed (m := m) h.loud hcost
    refine .of_agree (by rw [hleft]; exact fun h => nomatch h) fun hknown _ => ?_
    rw [hleft] at hknown
    exact absurd hcost (CostsKnown.not_failed hknown (by simp [Machine.past_worked]) cause)
  | ok v =>
    have hleft := LocalSearch.run_opening_known (m := m) h.loud hcost
    refine .of_agree (by rw [hleft]; exact fun h => nomatch h) fun _ _ => ?_
    rw [hleft, hright]
    refine .returned (h.committed (e := .started initial) ⟨?_, h.world, h.generators,
      h.recordings, h.loud, h.quiet⟩ rfl rfl ?_ (n.past_chosen initial))
    · simp only [Machine.opened, Machine.chosen, Machine.reported, h.solver]
    · simp [Machine.past, Machine.opened, Machine.chosen, Machine.reported]

/-- Both searches go on after a decision, and the first one asks what it costs where it is now. -/
theorem closing (neighbor : S) (accepted : Bool) :
    Action.InStep (Pace.knowing fun _ => false) Disclosed
      (fun m n => Disclosed m n ∧ m.solver.phase = .ready)
      (fun _ => (LocalSearch.closing neighbor accepted : Action W (LocalSearch W S) S (News S)))
      (LocalSearch.closing neighbor accepted) fun _ => Disclosed := by
  refine ⟨fun _ => .closing neighbor accepted, fun m n ⟨h, hready⟩ => ?_⟩
  have hright : (LocalSearch.closing neighbor accepted).runOn n = _ :=
    LocalSearch.run_closing_quiet h.quiet
  obtain ⟨s, hs⟩ : ∃ s, (if accepted then some neighbor else m.solver.inner.current) = some s := by
    cases accepted with
    | true => exact ⟨neighbor, rfl⟩
    | false => exact Option.isSome_iff_exists.1 (h.somewhere hready)
  cases hcost : Candidate.costs s with
  | error cause =>
    have hleft := LocalSearch.run_closing_failed (m := m) h.loud hs hcost
    refine .of_agree (by rw [hleft]; exact fun h => nomatch h) fun hknown _ => ?_
    rw [hleft] at hknown
    exact absurd hcost (CostsKnown.not_failed hknown (by simp [Machine.past_worked]) cause)
  | ok v =>
    have hleft := LocalSearch.run_closing_known (m := m) h.loud hs hcost
    refine .of_agree (by rw [hleft]; exact fun h => nomatch h) fun _ _ => ?_
    rw [hleft, hright]
    refine .returned (h.committed (e := .decided neighbor accepted) ⟨?_, h.world, h.generators,
      h.recordings, h.loud, h.quiet⟩ hs ?_ ?_ (n.past_judged neighbor accepted))
    · simp only [Machine.counted, Machine.judged, Machine.reported, h.solver]
    · exact LocalSearch.current_judged_eq.trans hs
    · simp [Machine.past, Machine.counted, Machine.judged, Machine.reported]

theorem enter :
    Action.InStep (Pace.knowing fun _ => false) Disclosed Disclosed
      (fun _ => (Solver.enter LocalSearch.method : Action W (LocalSearch W S) S (News S)))
      (Solver.enter LocalSearch.method) fun _ => Disclosed := by
  rw [LocalSearch.enter_eq]
  exact asking.proposing.bind opening

theorem stride :
    Action.InStep (Pace.knowing fun _ => false) Disclosed Disclosed
      (fun _ => (Solver.stride LocalSearch.method : Action W (LocalSearch W S) S (News S)))
      (Solver.stride LocalSearch.method) fun _ => Disclosed := by
  refine ⟨fun _ => .stride, fun m n h => ?_⟩
  cases hphase : m.solver.phase with
  | uninitialized =>
    have hleft := LocalSearch.run_stride_unready hphase
    have hright := LocalSearch.run_stride_unready (m := n) (by rw [h.solver, hphase])
    refine .of_agree (by rw [hleft]; exact fun h => nomatch h) fun _ _ => ?_
    rw [hleft, hright]
    refine .halted (h.uncommitted ⟨h.solver, h.world, h.generators, h.recordings, h.loud, h.quiet⟩
      rfl rfl (l := [.stepCalled]) (by simp [Entry.isCommit]) ?_ ?_) <;>
    simp [Machine.noted, Machine.past]
  | ready =>
    -- The search stays ready while hooks are asked.
    have hready : LocalSearch.Asking fun m n : Machine W (LocalSearch W S) S =>
        Disclosed m n ∧ m.solver.phase = .ready :=
      ⟨fun m n h => asking.peers m n h.1, fun m n world generators work hwork h =>
        ⟨asking.worked m n world generators work hwork h.1, h.2⟩⟩
    have hasked : Action.InStep (Pace.knowing fun _ => false) _ _ _ _ _ :=
      hready.deliberating fun m n h => by rw [h.1.solver]
    rw [LocalSearch.stride_eq]
    exact ((hasked.imp (fun _ _ h => h) (fun _ _ _ h => h) fun _ _ h => h.1).bind
      fun decision => closing decision.1 decision.2).abreast m n ⟨h, hphase⟩

/-- The two searches go on alike, whatever befalls them, in the sense of `Solver.Paired`. -/
theorem paired (cast : Cast W S) :
    Solver.Paired (Pace.knowing fun _ => false) cast cast Disclosed Disclosed
      fun _ _ => True where
  casts := .refl cast
  rest _ _ h := h
  world m n h := h.world.symm
  phase m n h := by rw [h.solver]
  observers m n h := by
    rw [h.solver]
    simp [Pace.common, Pace.knowing]
  view m n h := by rw [h.solver]
  recording m n o _ h _ := by rw [h.recordings]
  looked m n h := h.glimpsed fun _ => rfl
  read m n _ _ h := h.glimpsed fun _ => rfl
  resumed m n h := h.glimpsed fun _ => rfl
  stopAsked m n h := h.glimpsed fun _ => rfl
  hook h := asking.hook h
  enter := enter.imp (fun _ _ h => h) (fun _ _ _ h => ⟨h, trivial⟩) fun _ _ h => h
  stride := stride.imp (fun _ _ h => h) (fun _ _ _ h => ⟨h, trivial⟩) fun _ _ h => h
  pending _ _ _ _ _ := trivial
  silent m n news place place' o _ hplace h := by
    rw [hplace.eq fun _ => rfl]
    exact h.glimpsed fun _ => rfl
  recorder m n news place place' o _ hplace _ h := by
    rintro _ _ rfl rfl -
    rw [hplace.eq fun _ => rfl]
    exact (h.glimpsed fun _ => rfl).recorded o news
  custom m n news place place' o react _ hplace h := by
    rw [hplace.eq fun _ => rfl]
    exact h.glimpsed fun _ => rfl
  extra m n news place o ho := nomatch ho
  added m n o ho := nomatch ho
  logged m n text text' h := h.logged text text'
  observed m n o _ h := h.observed o
  overwritten m n k h := h.overwritten k

end Disclosed

/-- The machine with another least level of records. -/
def Machine.leveled (m : Machine W (LocalSearch W S) S) (level : Int) :
    Machine W (LocalSearch W S) S :=
  { m with level }

omit [Candidate S] in
theorem Machine.Fresh.disclosed {m : Machine W (LocalSearch W S) S} (h : m.Fresh)
    (hloud : m.level ≤ Level.debug) {level : Int} (hquiet : Level.debug < level) :
    Disclosed m (m.leveled level) := by
  have hpast : (m.leveled level).past = [] := h.past
  refine ⟨⟨rfl, rfl, rfl, rfl, hloud, hquiet⟩, ?_, ?_, ?_, fun hready => ?_⟩
  · rw [hpast, h.past]
    rfl
  · rw [hpast, h.past]
    rfl
  · rw [hpast, h.current]
    rfl
  · rw [h.phase] at hready
    cases hready

/-- Records for debugging change nothing of a search, as long as no cost fails to be known, wherever
    calls nest and fail. All that is added to the history are the costs that are shown, one after
    each commit: of the initial solution, of the neighbour that was accepted, or of the solution
    that was kept (`disclosed`). Without the records, the search itself asks for no cost
    (`Accounted`). -/
theorem debugging_changes_nothing (cast : Cast W S) (fuel : Nat) (caller : Program W S α)
    {m : Machine W (LocalSearch W S) S} (hfresh : m.Fresh) (hloud : m.level ≤ Level.debug)
    {level : Int} (hquiet : Level.debug < level)
    {left right : Except Halt α × Machine W (LocalSearch W S) S}
    (hleft : caller.outcome cast m fuel = left)
    (hright : caller.outcome cast (m.leveled level) fuel = right)
    (hknown : CostsKnown left.2.past) :
    (right.1 = left.1 ∧ SameButLevel left.2 right.2) ∧
      (left.2.past = disclosed none right.2.past ∧
        left.2.past.length = right.2.past.length + right.2.past.countP Entry.isCommit) ∧
      Accounted cast m.solver.blank right.2.past := by
  subst hleft hright
  have hplayed := ((Disclosed.paired cast).play fuel (.refl caller)).abreast m (m.leveled level)
    (hfresh.disclosed hloud hquiet)
  obtain ⟨hsame, hdisclosed⟩ := (hplayed.agree 0 hknown).same (fun _ _ => rfl) fun _ => rfl
  exact ⟨⟨hsame, hdisclosed.toSameButLevel⟩, ⟨hdisclosed.past, hdisclosed.length⟩,
    caller.accounted_outcome cast fuel (m := m.leveled level) hfresh.past hquiet⟩

/-- A start in which an observer steps, and another step: three commits, and three more costs. -/
theorem debugging_changes_nothing_eager :
    let m := Machine.listed ([5, 3, 4].map Bare.costing) #[0, 1] Level.debug
    let caller : Program (List Bare) Bare Unit := do
      Program.calling .start
      Program.calling .step
    let left := caller.outcome Cast.eager m 9
    let right := caller.outcome Cast.eager (m.leveled Level.info) 9
    right.2.past.countP Entry.isCommit = 3 ∧ left.2.past = disclosed none right.2.past ∧
      Accounted Cast.eager m.solver.blank right.2.past := by
  intro m caller left right
  have hknown : CostsKnown left.2.past := Bare.costsKnown (by decide +kernel)
  have hsame := debugging_changes_nothing Cast.eager 9 caller
    (Machine.fresh_listed ([5, 3, 4].map Bare.costing) #[0, 1] Level.debug) (by decide)
    (show Level.debug < Level.info by decide) rfl rfl hknown
  exact ⟨by decide +kernel, hsame.2.1.1, hsame.2.2⟩

end HillClimb
