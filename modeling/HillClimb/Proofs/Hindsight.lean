import HillClimb.Proofs.Endings
import HillClimb.Solver.LocalSearch

set_option autoImplicit false

/-! # Nothing looks back

The transcript and the journal are only ever written to. So whatever a search does, it does the same
on a machine that recalls a longer past (`Machine.recalling`), and that longer past is still there
in the end. An action of which this is so is `Action.Forgetful`; all calls are
(`Solver.forgetful_serve`), and so is what a local search does between them
(`LocalSearch.forgetful_method`). -/

namespace HillClimb

variable {W I S α β : Type}

/-- The machine with a longer past: this is what happened, and what was logged, before all else. -/
def Machine.recalling (m : Machine W I S) (past : Array (Entry S)) (journal : Array LogRecord) :
    Machine W I S :=
  { m with transcript := past ++ m.transcript, journal := journal ++ m.journal }

/-- The machine without any past. -/
def Machine.forgetting (m : Machine W I S) : Machine W I S :=
  { m with transcript := #[], journal := #[] }

theorem Machine.recalling_forgetting (m : Machine W I S) :
    m.forgetting.recalling m.transcript m.journal = m := by
  simp [recalling, forgetting]

namespace Action

/-- The action does the same whatever the machine recalls. -/
def Forgetful (x : Action W I S α) : Prop :=
  ∀ m past journal, x.runOn (m.recalling past journal)
    = ((x.runOn m).1, (x.runOn m).2.recalling past journal)

namespace Forgetful

theorem pure (a : α) : Forgetful (pure a : Action W I S α) := fun _ _ _ => rfl

theorem throw (h : Halt) : Forgetful (throw h : Action W I S α) := fun _ _ _ => rfl

theorem fail (cause : Failure) : Forgetful (Action.fail cause : Action W I S α) := fun _ _ _ => rfl

theorem changeSolver (f : Solver I → Solver I) :
    Forgetful (changeSolver f : Action W I S Unit) := fun _ _ _ => rfl

theorem note (e : Entry S) : Forgetful (note e : Action W I S Unit) := by
  intro m past journal
  simp [run_note, Machine.recalling]

theorem noteSeen (method : Method W I S) (entry : Sight S → Entry S) :
    Forgetful (method.noteSeen entry) := by
  intro m past journal
  have hsight : method.sight (m.recalling past journal) = method.sight m := rfl
  rw [run_noteSeen, run_noteSeen, hsight]
  simp [Machine.recalling]

theorem log (level : Int) (source : LogSource) (message : String)
    (arguments : List (Option String)) :
    Forgetful (log level source message arguments : Action W I S Unit) := by
  intro m past journal
  by_cases h : m.level ≤ level
  · simp [run_log, h, Machine.recalling]
  · simp [run_log, h, Machine.recalling]

theorem hook (h : Hook W S α) : Forgetful (hook h : Action W I S α) := by
  intro m past journal
  simp [run_hook, Machine.recalling, Array.append_assoc]

theorem record [Candidate S] (method : Method W I S) (o : ObserverId) (news : News S) :
    Forgetful (record method o news) := by
  intro m past journal
  simp [run_record, Machine.recalling, Array.append_assoc]

theorem bind {x : Action W I S α} {f : α → Action W I S β} (hx : Forgetful x)
    (hf : ∀ a, Forgetful (f a)) : Forgetful (x >>= f) := by
  intro m past journal
  rw [run_bind, run_bind, hx m past journal]
  rcases x.runOn m with ⟨h | a, m'⟩
  · rfl
  · exact hf a m' past journal

/-- What is looked at must not be the past: `f` makes no difference between machines that only
    recall more or less. -/
theorem get {f : Machine W I S → Action W I S α}
    (hsame : ∀ m past journal, f (m.recalling past journal) = f m) (hf : ∀ m, Forgetful (f m)) :
    Forgetful (get >>= f) := by
  intro m past journal
  rw [run_bind, run_bind, run_get, run_get]
  dsimp only
  rw [hsame, hf m m past journal]

theorem attempt {x : Action W I S α} (hx : Forgetful x) : Forgetful (attempt x) := by
  intro m past journal
  rw [run_attempt, run_attempt, hx m past journal]
  rcases x.runOn m with ⟨(cause | _) | a, m'⟩ <;> rfl

/-- The action ends on the machine that recalls more as it does on the other one. -/
theorem ends {x : Nat → Action W I S α} (hx : ∀ fuel, Forgetful (x fuel)) {m m' : Machine W I S}
    {past : Array (Entry S)} {journal : Array LogRecord} {result : Except Failure α} :
    Ends x (m.recalling past journal) result m' ↔
      ∃ m₁, Ends x m result m₁ ∧ m' = m₁.recalling past journal := by
  constructor
  · rintro ⟨fuel, h⟩
    rw [hx fuel m past journal] at h
    obtain ⟨hresult, rfl⟩ := Prod.mk.inj h
    exact ⟨_, ⟨fuel, Prod.ext hresult rfl⟩, rfl⟩
  · rintro ⟨m₁, ⟨fuel, h⟩, rfl⟩
    refine ⟨fuel, ?_⟩
    rw [hx fuel m past journal, h]

end Forgetful

end Action

/-! ## Calls -/

/-- Neither the `start` nor the `move` looks back. -/
structure Method.Forgetful (method : Method W I S) : Prop where
  start : Action.Forgetful method.start
  move : Action.Forgetful method.move

namespace Solver

variable {method : Method W I S} {serve : Call → Action W I S Unit}

theorem forgetful_play (hs : ∀ c, (serve c).Forgetful) (p : Program W S α) :
    (p.play method serve).Forgetful := by
  induction p with
  | done a => exact .pure a
  | fail cause => exact .fail cause
  | look next ih =>
    rw [Program.play]
    exact (Action.Forgetful.noteSeen _ _).bind fun _ => .get (fun _ _ _ => rfl) fun m => ih _ _
  | read o next ih =>
    rw [Program.play]
    exact (Action.Forgetful.noteSeen _ _).bind fun _ => .get (fun _ _ _ => rfl) fun m => ih _
  | perform h next ih =>
    rw [Program.play]
    exact (Action.Forgetful.hook h).attempt.bind ih
  | call c next ih =>
    rw [Program.play]
    exact (hs c).attempt.bind fun outcome =>
      (Action.Forgetful.noteSeen _ _).bind fun _ => ih outcome

theorem forgetful_limitReached (limit : Option Value) (count : Nat) :
    (limitReached limit count : Action W I S Bool).Forgetful := by
  unfold limitReached
  split
  · exact .pure _
  · split
    · exact .pure _
    · exact .fail _

variable [Candidate S] {cast : Cast W S}

theorem forgetful_round (hs : ∀ c, (serve c).Forgetful) (news : News S) (fuel place : Nat) :
    (round method cast serve news fuel place).Forgetful := by
  induction fuel generalizing place with
  | zero => exact .throw _
  | succ fuel ih =>
    rw [round]
    refine .get (fun _ _ _ => rfl) fun m => ?_
    split
    · exact .pure _
    · refine Action.Forgetful.bind ?_ fun _ => ih (place + 1)
      refine (Action.Forgetful.noteSeen _ _).bind fun _ => ?_
      unfold react
      split
      · exact .pure _
      · exact .record _ _ _
      · exact forgetful_play hs _

section

variable (hm : method.Forgetful)
include hm

theorem forgetful_begin (hs : ∀ c, (serve c).Forgetful) (fuel : Nat) :
    (begin method cast serve fuel).Forgetful := by
  refine Action.Forgetful.bind ?_ fun news => forgetful_round hs news fuel 0
  exact (Action.Forgetful.note _).bind fun _ => hm.start.bind fun _ =>
    (Action.Forgetful.changeSolver _).bind fun _ => .get (fun _ _ _ => rfl) fun m => .pure _

theorem forgetful_advance (hs : ∀ c, (serve c).Forgetful) (fuel : Nat) :
    (advance method cast serve fuel).Forgetful := by
  have hmove : (method.move >>= fun made => do
      Action.changeSolver fun s => { s with steps := s.steps + 1 }
      return News.stepped made.1 made.2 : Action W I S (News S)).Forgetful :=
    hm.move.bind fun _ => (Action.Forgetful.changeSolver _).bind fun _ => .pure _
  refine Action.Forgetful.bind ?_ fun news => forgetful_round hs news fuel 0
  refine (Action.Forgetful.note _).bind fun _ => .get (fun _ _ _ => rfl) fun m => ?_
  split
  · exact (Action.Forgetful.fail _).bind fun _ => hmove
  · exact hmove

theorem forgetful_laps (hs : ∀ c, (serve c).Forgetful) (stop : StopId) (limit : Option Value)
    (bound fuel count : Nat) :
    (laps method cast serve stop limit bound fuel count).Forgetful := by
  induction fuel generalizing count with
  | zero => exact .throw _
  | succ fuel ih =>
    rw [laps_succ]
    refine Action.Forgetful.bind ?_ fun stopped => ?_
    · exact (Action.Forgetful.noteSeen _ _).bind fun _ => forgetful_play hs _
    split
    · exact .pure _
    · refine (forgetful_limitReached limit count).bind fun reached => ?_
      split
      · exact .pure _
      · exact (forgetful_advance hm hs bound).bind fun _ => ih (count + 1)

theorem forgetful_runUntil (hs : ∀ c, (serve c).Forgetful) (fuel : Nat) (stop : StopId)
    (limit : Option Value) : (runUntil method cast serve fuel stop limit).Forgetful := by
  have hexcursion : (excursion method cast serve fuel stop limit).Forgetful :=
    .get (fun _ _ _ => rfl) fun _ => (Action.Forgetful.log _ _ _ _).bind fun _ =>
      (forgetful_laps hm hs stop limit fuel fuel 0).bind fun _ =>
        .get (fun _ _ _ => rfl) fun _ => .log _ _ _ _
  rw [runUntil_eq]
  refine .get (fun _ _ _ => rfl) fun m => ?_
  split
  · exact (forgetful_begin hm hs fuel).bind fun _ => hexcursion
  · exact hexcursion

/-- Whatever a call of `Solver.serve` does, it does the same with a longer past. -/
theorem forgetful_serve (fuel : Nat) (c : Call) :
    (Solver.serve method cast fuel c).Forgetful := by
  -- The calls nested in this one are served one level further down.
  induction fuel generalizing c with
  | zero => exact .throw _
  | succ fuel ih =>
    cases c with
    | start => exact forgetful_begin hm ih fuel
    | step => exact forgetful_advance hm ih fuel
    | run stop limit => exact forgetful_runUntil hm ih fuel stop limit
    | observe o =>
      rw [Solver.serve, obey]
      exact .changeSolver _
    | setStagnation n =>
      rw [Solver.serve, obey]
      exact (Action.Forgetful.note _).bind fun _ => .changeSolver _

end

end Solver

/-! ## Local search -/

namespace LocalSearch

variable [Candidate S]

omit [Candidate S] in
theorem forgetful_requireFactory :
    (requireFactory : Action W (LocalSearch W S) S (Factory W S)).Forgetful := by
  refine .get (fun _ _ _ => rfl) fun m => ?_
  dsimp only
  split
  · exact .pure _
  · exact .fail _

theorem forgetful_debugCost (solution : Option S) (message : String) (further : List String) :
    (debugCost solution message further : Action W (LocalSearch W S) S Unit).Forgetful := by
  refine .get (fun _ _ _ => rfl) fun m => ?_
  split
  · refine Action.Forgetful.bind ?_ fun s => (Action.Forgetful.hook _).bind fun _ => .log _ _ _ _
    cases solution with
    | none => exact .fail _
    | some s => exact .pure s
  · exact .pure _

/-- A local search does not look back. -/
theorem forgetful_method : (method : Method W (LocalSearch W S) S).Forgetful where
  start := by
    refine Action.Forgetful.bind ?_ fun initial => Action.Forgetful.bind ?_ fun _ =>
      forgetful_debugCost _ _ _
    · refine .get (fun _ _ _ => rfl) fun m => ?_
      dsimp only
      split
      · exact .hook _
      · exact forgetful_requireFactory.bind fun _ => (Action.Forgetful.note _).bind fun _ =>
          .hook _
    · exact (Action.Forgetful.note _).bind fun _ => .changeSolver _
  move := by
    refine Action.Forgetful.bind ?_ fun neighbor => Action.Forgetful.bind ?_ fun accepted =>
      Action.Forgetful.bind ?_ fun _ => .get (fun _ _ _ => rfl) fun m =>
        (forgetful_debugCost _ _ _).bind fun _ => .pure _
    · refine .get (fun _ _ _ => rfl) fun m => ?_
      dsimp only
      split
      · exact .hook _
      · exact forgetful_requireFactory.bind fun _ => (Action.Forgetful.note _).bind fun _ =>
          .hook _
    · refine .get (fun _ _ _ => rfl) fun m => ?_
      dsimp only
      split
      · exact .fail _
      · exact (Action.Forgetful.note _).bind fun _ => .hook _
    · exact (Action.Forgetful.note _).bind fun _ => .changeSolver _

end LocalSearch

end HillClimb
