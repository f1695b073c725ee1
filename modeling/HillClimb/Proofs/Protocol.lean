import HillClimb.Proofs.Commits
import HillClimb.Proofs.Unfolding

set_option autoImplicit false

/-! # The protocol of hooks

The factory and the acceptance rule of a search are asked turn by turn, in the order in which the
turns are called, however calls nest and fail: a start asks for an initial solution, a step asks for
a neighbour and then once about that neighbour, and nothing is asked before there is an initial
solution to start from.

What may stand before each landmark is `Entry.Prepared`. It holds within the block that a turn
writes (`Turn.Writes.prepared`), and so along a sequence of turns (`Orderly.unfolds`). The result is
`hooks_follow_protocol`. -/

namespace HillClimb

variable {W S α : Type}

/-! ## Orderly searches -/

/-- What stands before a landmark. A neighbour is asked for only in a search that was started, the
    acceptance rule is asked right after a neighbour was, and a commit comes right after the hook
    that it follows from was asked. -/
def Entry.Prepared (before : List (Entry S)) : Entry S → Prop
  | .neighborAsked _ => ∃ s, .started s ∈ before
  | .acceptanceAsked _ _ current =>
    (∃ s, .started s ∈ before) ∧ ∃ earlier, before = earlier ++ [.neighborAsked current]
  | .started _ => ∃ earlier, before = earlier ++ [.initialAsked]
  | .decided neighbor _ =>
    ∃ earlier custom current, before = earlier ++ [.acceptanceAsked custom neighbor current]
  | _ => True

/-- A search that is supplied by a factory from the time when it is `ready`, and whose landmarks are
    well prepared. -/
structure Orderly (m : Machine W (LocalSearch W S) S) : Prop where
  plain : m.solver.inner.Plain
  supplied : m.solver.phase = .ready → ∃ factory, m.solver.inner.factory = some factory
  started : m.solver.phase = .ready → ∃ s, .started s ∈ m.landmarks
  prepared : Everywhere (fun before e => e.Prepared before) m.landmarks

/-- What a search was made with is part of what stays. -/
theorem Solver.made_of_blank {s s' : Solver (LocalSearch W S)} (h : s'.blank = s.blank) :
    s'.inner.factory = s.inner.factory ∧ s'.inner.acceptance = s.inner.acceptance ∧
      s'.generator = s.generator ∧ (s.inner.Plain → s'.inner.Plain) := by
  have hfactory := congrArg (fun s : Solver (LocalSearch W S) => s.inner.factory) h
  have hacceptance := congrArg (fun s : Solver (LocalSearch W S) => s.inner.acceptance) h
  have hgenerator := congrArg (fun s : Solver (LocalSearch W S) => s.generator) h
  have hinitial := congrArg (fun s : Solver (LocalSearch W S) => s.inner.initialMaker) h
  have hneighbor := congrArg (fun s : Solver (LocalSearch W S) => s.inner.neighborMaker) h
  refine ⟨hfactory, hacceptance, hgenerator, fun hp => ⟨hinitial.trans hp.initialMaker,
    hneighbor.trans hp.neighborMaker, ?_⟩⟩
  obtain ⟨rule, hrule⟩ := hp.acceptance
  exact ⟨rule, hacceptance.trans hrule⟩

theorem Orderly.idle {m m' : Machine W (LocalSearch W S) S} (h : Orderly m) (hidle : m.Idle m') :
    Orderly m' := by
  obtain ⟨hfactory, -, -, hplain⟩ := Solver.made_of_blank hidle.blank
  refine ⟨hplain h.plain, ?_, ?_, ?_⟩
  · rw [hidle.phase, hfactory]
    exact h.supplied
  · rw [hidle.phase, hidle.landmarks]
    exact h.started
  · rw [hidle.landmarks]
    exact h.prepared

variable [Candidate S]

/-- A turn of an orderly search writes one block of landmarks, as `Turn.Writes` says. -/
theorem Orderly.writes {t : Turn W S} (h : Orderly t.before) :
    ∃ block, t.Writes block ∧ t.outcome.2.landmarks = t.before.landmarks ++ block := by
  cases t with
  | start m => exact LocalSearch.writes_start h.plain
  | step m => exact LocalSearch.writes_step h.plain h.supplied

namespace Turn.Writes

variable {t : Turn W S} {block : List (Entry S)}

/-- A search is ready after a turn only if it was before, or if it has just been started. -/
theorem ready (h : t.Writes block) (hready : t.outcome.2.solver.phase = .ready) :
    t.before.solver.phase = .ready ∨
      (∃ factory, t.before.solver.inner.factory = some factory) ∧ ∃ s, .started s ∈ block := by
  have hphase := t.phase
  cases h with
  | unsupplied _ hfailed => exact .inl ((hphase (.inr ⟨_, hfailed⟩)).symm.trans hready)
  | unstarted _ _ hfailed => exact .inl ((hphase (.inr ⟨_, hfailed⟩)).symm.trans hready)
  | @started m factory initial hfactory _ => exact .inr ⟨⟨factory, hfactory⟩, initial, by simp⟩
  | unready => exact .inl ((hphase (.inl ⟨_, rfl⟩)).symm.trans hready)
  | unmade hbefore => exact .inl hbefore
  | undecided hbefore => exact .inl hbefore
  | decided hbefore => exact .inl hbefore

/-- The landmarks of a block are well prepared behind those of a search that was started if it is
    ready. -/
theorem prepared (h : t.Writes block) {past : List (Entry S)}
    (hpast : Everywhere (fun before e => e.Prepared before) past)
    (hstarted : t.before.solver.phase = .ready → ∃ s, .started s ∈ past) :
    Everywhere (fun before e => e.Prepared before) (past ++ block) := by
  cases h with
  | unsupplied => exact .concat hpast trivial
  | unstarted =>
    rw [List.append_cons]
    exact .concat (.concat hpast trivial) trivial
  | started =>
    rw [List.append_cons, List.append_cons]
    exact .concat (.concat (.concat hpast trivial) trivial) ⟨_, rfl⟩
  | unready => exact .concat hpast trivial
  | unmade hready =>
    obtain ⟨s, hs⟩ := hstarted hready
    rw [List.append_cons]
    exact .concat (.concat hpast trivial) ⟨s, by simp [hs]⟩
  | undecided hready =>
    obtain ⟨s, hs⟩ := hstarted hready
    rw [List.append_cons, List.append_cons]
    exact .concat (.concat (.concat hpast trivial) ⟨s, by simp [hs]⟩)
      ⟨⟨s, by simp [hs]⟩, _, rfl⟩
  | decided hready =>
    obtain ⟨s, hs⟩ := hstarted hready
    rw [List.append_cons, List.append_cons, List.append_cons]
    exact .concat (.concat (.concat (.concat hpast trivial) ⟨s, by simp [hs]⟩)
      ⟨⟨s, by simp [hs]⟩, _, rfl⟩) ⟨_, _, _, rfl⟩

end Turn.Writes

theorem Orderly.turn {t : Turn W S} (h : Orderly t.before) : Orderly t.outcome.2 := by
  obtain ⟨hfactory, -, -, hplain⟩ := Solver.made_of_blank t.blank
  obtain ⟨block, hwrites, hlandmarks⟩ := h.writes
  refine ⟨hplain h.plain, fun hready => ?_, fun hready => ?_, ?_⟩
  · rw [hfactory]
    rcases hwrites.ready hready with hready | ⟨hsupplied, -⟩
    · exact h.supplied hready
    · exact hsupplied
  · rw [hlandmarks]
    rcases hwrites.ready hready with hready | ⟨-, s, hs⟩
    · obtain ⟨s, hs⟩ := h.started hready
      exact ⟨s, List.mem_append_left _ hs⟩
    · exact ⟨s, List.mem_append_right _ hs⟩
  · rw [hlandmarks]
    exact hwrites.prepared h.prepared h.started

/-- The landmarks of a sequence of turns are their blocks. -/
theorem Orderly.unfolds {m m' : Machine W (LocalSearch W S) S} {turns : List (Turn W S)}
    (hm : Orderly m) (h : m.Unfolds turns m') :
    ∃ blocks, List.Forall₂ Turn.Writes turns blocks ∧
      m'.landmarks = m.landmarks ++ blocks.flatten := by
  induction h with
  | idle h => exact ⟨[], .nil, by simp [h.landmarks]⟩
  | turn h _ ih =>
    have hbefore := hm.idle h
    obtain ⟨block, hwrites, hlandmarks⟩ := hbefore.writes
    obtain ⟨blocks, hblocks, hrest⟩ := ih hbefore.turn
    refine ⟨block :: blocks, .cons hwrites hblocks, ?_⟩
    rw [hrest, hlandmarks, h.landmarks, List.flatten_cons, List.append_assoc]

/-! ## Sessions -/

/-- The first machine becomes the second by these turns, and their blocks are all the landmarks that
    were added. A block is what a turn `Writes`. -/
def Machine.Proceeds (m : Machine W (LocalSearch W S) S) (turns : List (Turn W S))
    (m' : Machine W (LocalSearch W S) S) : Prop :=
  m.Unfolds turns m' ∧ ∃ blocks, List.Forall₂ Turn.Writes turns blocks ∧
    m'.landmarks = m.landmarks ++ blocks.flatten

/-- The call that the turn belongs to: `Solver.begin` or `Solver.advance`. -/
def Turn.call (cast : Cast W S) (nested : Call → Action W (LocalSearch W S) S Unit) (fuel : Nat) :
    Turn W S → Action W (LocalSearch W S) S Unit
  | .start _ => Solver.begin LocalSearch.method cast nested fuel
  | .step _ => Solver.advance LocalSearch.method cast nested fuel

/-- If the turn fails, its call fails likewise, and nobody is told. -/
theorem Turn.call_of_failed {t : Turn W S} {halt : Halt} (hfailed : t.outcome.1 = .error halt)
    (cast : Cast W S) (nested : Call → Action W (LocalSearch W S) S Unit) (fuel : Nat) :
    (t.call cast nested fuel).runOn t.before = (.error halt, t.outcome.2) := by
  have houtcome : t.outcome = (.error halt, t.outcome.2) := Prod.ext hfailed rfl
  cases t with
  | start m =>
    change (Solver.enter LocalSearch.method).runOn m = _ at houtcome
    rw [call, before, Solver.begin, Action.run_bind, houtcome]
  | step m =>
    change (Solver.stride LocalSearch.method).runOn m = _ at houtcome
    rw [call, before, Solver.advance, Action.run_bind, houtcome]

omit [Candidate S] in
/-- A search as it is made is orderly. -/
theorem Machine.Fresh.orderly {m : Machine W (LocalSearch W S) S} (h : m.Fresh)
    (hplain : m.solver.inner.Plain) : Orderly m := by
  have hphase : m.solver.phase ≠ .ready := by simp [h.phase]
  refine ⟨hplain, fun hready => absurd hready hphase, fun hready => absurd hready hphase, ?_⟩
  rw [Machine.landmarks, h.past]
  exact .nil

/-! ## Searches without a factory -/

/-- A search that has no factory, and that has called nobody. -/
structure Unsupplied (m : Machine W (LocalSearch W S) S) : Prop extends Orderly m where
  factory : m.solver.inner.factory = none
  calls : ∀ e ∈ m.landmarks, e = .startCalled ∨ e = .stepCalled

namespace Unsupplied

variable {m m' : Machine W (LocalSearch W S) S}

omit [Candidate S] in
theorem phase (h : Unsupplied m) : m.solver.phase = .uninitialized := by
  cases hphase : m.solver.phase with
  | uninitialized => rfl
  | ready =>
    obtain ⟨factory, hfactory⟩ := h.supplied hphase
    rw [h.factory] at hfactory
    cases hfactory

omit [Candidate S] in
theorem not_started (h : Unsupplied m) (s : S) : .started s ∉ m.past := by
  intro hs
  rcases h.calls _ (Machine.mem_landmarks.2 ⟨hs, rfl⟩) with h | h <;> cases h

omit [Candidate S] in
theorem idle (h : Unsupplied m) (hidle : m.Idle m') : Unsupplied m' := by
  refine ⟨h.toOrderly.idle hidle, ?_, ?_⟩
  · exact (Solver.made_of_blank hidle.blank).1.trans h.factory
  · rw [hidle.landmarks]
    exact h.calls

theorem turn {t : Turn W S} (h : Unsupplied t.before) : Unsupplied t.outcome.2 := by
  obtain ⟨block, hwrites, hlandmarks⟩ := h.writes
  refine ⟨h.toOrderly.turn, (Solver.made_of_blank t.blank).1.trans h.factory, ?_⟩
  rw [hlandmarks]
  refine List.forall_mem_append.2 ⟨h.calls, ?_⟩
  have hnone := h.factory
  cases hwrites with
  | unsupplied => simp
  | unready => simp
  | _ => simp_all [Turn.before]

/-- Nobody ever sees it ready. -/
theorem sights (h : Unsupplied m) {level : Int} (hm : Standing level m) :
    EverySight (fun _ _ seen => seen.phase = .uninitialized) m.past := by
  intro before e after hsplit seen hseen
  cases hphase : seen.phase with
  | uninitialized => rfl
  | ready =>
    -- Whoever sees it ready comes after a start that has succeeded.
    have hstarted := (hm.sights before e after hsplit seen hseen).located.started hphase
    obtain ⟨s, hs⟩ := (isSome_stretchOf before).1 hstarted
    refine absurd ?_ (h.not_started s)
    rw [hsplit]
    exact List.mem_append_left _ hs

end Unsupplied

/-! ## The protocol -/

/-- Whatever is done with a search that is made anew, its turns write the landmarks block by block
    (`Machine.Proceeds`); no neighbour is asked for before there is an initial solution, and no rule
    is asked twice about a neighbour (`Entry.Prepared`). Without a factory the search is never
    `ready` and nothing is asked. In a call whose observers are `Forthright`, that is, pass failures
    on, a turn that fails is the last, and the call fails as it did. -/
theorem hooks_follow_protocol (cast : Cast W S) (fuel : Nat) (caller : Program W S α)
    {m m' : Machine W (LocalSearch W S) S} (hfresh : m.Fresh) {factory : Option (Factory W S)}
    {comparator : Option (Comparator W S)} {acceptance : Option (Acceptance W S)}
    (hnew : m.solver.inner = .new factory comparator acceptance)
    (hrun : ((caller.play LocalSearch.method
      (Solver.serve LocalSearch.method cast fuel)).runOn m).2 = m') :
    (∃ turns, m.Proceeds turns m') ∧
      (∀ (t : Turn W S) halt, t.outcome.1 = .error halt → ∀ nested bound,
        (t.call cast nested bound).runOn t.before = (.error halt, t.outcome.2)) ∧
      Everywhere (fun before e => e.Prepared before) m'.landmarks ∧
      (factory = none → m'.solver.phase = .uninitialized ∧
        EverySight (fun _ _ seen => seen.phase = .uninitialized) m'.past ∧
        ∀ e ∈ m'.landmarks, e = .startCalled ∨ e = .stepCalled) ∧
      (cast.Forthright → ∀ fuel' c, ∃ turns,
        m'.Proceeds turns ((Solver.serve LocalSearch.method cast fuel' c).runOn m').2 ∧
          Passed turns ((Solver.serve LocalSearch.method cast fuel' c).runOn m').1) := by
  have horderly : Orderly m := hfresh.orderly (by rw [hnew]; exact LocalSearch.plain_new _ _ _)
  have hstanding := (Standing.lasting m.level).holds cast fuel caller hfresh.standing
  obtain ⟨turns, hturns⟩ := Solver.unfolds_session cast fuel caller m
  rw [hrun] at hturns hstanding
  have hlast := (hturns.keeps (fun _ _ h => h.idle) (fun _ h => h.turn) horderly).1
  refine ⟨⟨turns, hturns, horderly.unfolds hturns⟩, fun t halt h => t.call_of_failed h cast,
    hlast.prepared, ?_, fun hcast fuel' c => ?_⟩
  · rintro rfl
    have hnone : Unsupplied m :=
      ⟨horderly, by rw [hnew]; rfl, by simp [Machine.landmarks, hfresh.past]⟩
    have hunsupplied := (hturns.keeps (fun _ _ h => h.idle) (fun _ h => h.turn) hnone).1
    exact ⟨hunsupplied.phase, hunsupplied.sights hstanding, hunsupplied.calls⟩
  · obtain ⟨later, hlater, hpassed⟩ := Solver.passed_serve hcast fuel' c m'
    exact ⟨later, ⟨hlater, hlast.unfolds hlater⟩, hpassed⟩

omit [Candidate S] in
/-- The observers of this cast pass failures on. -/
theorem Cast.forthright_eager : (Cast.eager (W := W) (S := S)).Forthright where
  observer o program hprogram news := by
    unfold Cast.eager at hprogram
    dsimp only at hprogram
    split at hprogram
    · cases hprogram
    · cases hprogram
      cases news with
      | started s => exact ⟨fun cause => rfl, fun outcome => by cases outcome <;> trivial⟩
      | stepped neighbor accepted => trivial
  stop stop := trivial

/-- The neighbour that was decided on, and whether it was accepted. -/
def Entry.decision? : Entry S → Option (S × Bool)
  | .decided neighbor accepted => some (neighbor, accepted)
  | _ => none

/-- A start in which an observer steps; another step finds the list at its end, and fails. -/
theorem hooks_follow_protocol_eager :
    let m := Machine.listed ([5, 3].map Bare.costing) #[0, 1] Level.info
    let caller : Program (List Bare) Bare Unit := Program.calling .start
    let m' := ((caller.play LocalSearch.method
      (Solver.serve LocalSearch.method Cast.eager 9)).runOn m).2
    let outcome := (Solver.serve LocalSearch.method Cast.eager 9 .step).runOn m'
    m'.landmarks.length = 7 ∧ m'.landmarks.filterMap Entry.decision? = [(.costing 3, true)] ∧
      (∃ turns, m.Proceeds turns m') ∧
      outcome.1 = .error (.failed .scriptExhausted) ∧
      ∃ turns, m'.Proceeds turns outcome.2 ∧ Passed turns outcome.1 := by
  intro m caller m' outcome
  have hrun : ((caller.play LocalSearch.method
      (Solver.serve LocalSearch.method Cast.eager 9)).runOn m).2 = m' := rfl
  have h := hooks_follow_protocol Cast.eager 9 caller (Machine.fresh_listed _ _ _) rfl hrun
  exact ⟨by decide +kernel, by decide +kernel, h.1, by decide +kernel,
    h.2.2.2.2 Cast.forthright_eager 9 .step⟩

end HillClimb
