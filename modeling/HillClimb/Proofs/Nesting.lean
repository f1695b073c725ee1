import HillClimb.Proofs.Actions
import HillClimb.Solver.Lifecycle

set_option autoImplicit false

/-! # What nested calls keep

Calls nest without end: an observer that is told of a step may step again, and so may the stop
condition of a run. An invariant of a solver is proved here once for all of them. It is enough that
the invariant survives the few things that happen between two calls, and that a transition, which
may break it for as long as nobody looks, leaves a machine on which the first observer of the list
mends it (`Solver.Upheld`). Then every call keeps it, however deep calls nest (`Upheld.serve`), and
so does every program (`Upheld.play`). -/

namespace HillClimb

variable {W I S α : Type}

/-! ## Programs -/

/-- What a program does without a call keeps the invariant. -/
structure Program.Harmless (method : Method W I S) (P U : Machine W I S → Prop) : Prop where
  hook : ∀ h : Hook W S Value, Action.Keeps P U (Action.hook h : Action W I S Value)
  looked : Action.Keeps P U (method.noteSeen .looked)
  read : ∀ o, Action.Keeps P U (method.noteSeen (.read o))
  resumed : Action.Keeps P U (method.noteSeen .resumed)

/-- A program keeps what its calls keep, if it is `Harmless` without them. -/
theorem Program.Harmless.play {method : Method W I S} {P U : Machine W I S → Prop}
    (hm : Program.Harmless method P U) {serve : Call → Action W I S Unit}
    (hs : ∀ c, Action.Keeps P U (serve c)) (p : Program W S α) :
    Action.Keeps P U (p.play method serve) := by
  induction p with
  | done a => exact .pure a
  | fail cause => exact .fail cause
  | look next ih =>
    rw [Program.play]
    exact hm.looked.bind fun _ => Action.Keeps.get.bind fun m => ih _ _
  | read o next ih =>
    rw [Program.play]
    exact (hm.read o).bind fun _ => Action.Keeps.get.bind fun m => ih _
  | perform h next ih =>
    rw [Program.play]
    exact (hm.hook h).attempt.bind fun outcome => ih outcome
  | call c next ih =>
    rw [Program.play]
    exact (hs c).attempt.bind fun outcome => hm.resumed.bind fun _ => ih outcome

namespace Solver

/-- A limit is looked at without a change. -/
theorem keeps_limitReached (P U : Machine W I S → Prop) (limit : Option Value) (laps : Nat) :
    Action.Keeps P U (limitReached limit laps : Action W I S Bool) := by
  unfold limitReached
  split
  · exact .pure _
  · split
    · exact .pure _
    · exact .fail _

variable [Candidate S]

/-- An observer keeps what a recording and its calls keep; this is about `Solver.react`. -/
theorem keeps_react {method : Method W I S} (cast : Cast W S) {P U : Machine W I S → Prop}
    (hm : Program.Harmless method P U) {serve : Call → Action W I S Unit}
    (hs : ∀ c, Action.Keeps P U (serve c)) {news : News S} {o : ObserverId}
    (hrecord : Action.Keeps P U (Action.record method o news)) :
    Action.Keeps P U (react method cast serve news o) := by
  unfold react
  split
  · exact .pure _
  · exact hrecord
  · exact hm.play hs _

/-- Telling an observer by `Solver.notify` keeps what the telling, a recording and its calls
    keep. -/
theorem keeps_notify {method : Method W I S} (cast : Cast W S) {P U : Machine W I S → Prop}
    (hm : Program.Harmless method P U) {serve : Call → Action W I S Unit}
    (hs : ∀ c, Action.Keeps P U (serve c)) {news : News S} {place : Nat} {o : ObserverId}
    (htold : Action.Keeps P U (method.noteSeen (.notified place o news)))
    (hrecord : Action.Keeps P U (Action.record method o news)) :
    Action.Keeps P U (notify method cast serve news place o) :=
  htold.bind fun _ => keeps_react cast hm hs hrecord

/-! ## Invariants of solvers -/

/-- An invariant `P` that all calls keep, and that becomes `U` where one remains unfinished. A
    transition leaves `due` instead, which its news make good on the first observer of the list. -/
structure Upheld (method : Method W I S) (cast : Cast W S) (P U : Machine W I S → Prop)
    (due : News S → Machine W I S → Prop) : Prop extends Program.Harmless method P U where
  rest : ∀ m, P m → U m
  restDue : ∀ news m, due news m → U m
  enter : Action.Leads P (Solver.enter method) due (Halt.Leaves P U)
  stride : Action.Leads P (Solver.stride method) due (Halt.Leaves P U)
  alone : ∀ news m, due news m → m.solver.observers[0]? = none → P m
  first : ∀ serve : Call → Action W I S Unit, (∀ c, Action.Keeps P U (serve c)) → ∀ news o,
    Action.Leads (fun m => due news m ∧ m.solver.observers[0]? = some o)
      (notify method cast serve news 0 o) (fun _ => P) (Halt.Leaves P U)
  later : ∀ serve : Call → Action W I S Unit, (∀ c, Action.Keeps P U (serve c)) →
    ∀ news place o,
      Action.Leads (fun m => P m ∧ m.solver.observers[place + 1]? = some o)
        (notify method cast serve news (place + 1) o) (fun _ => P) (Halt.Leaves P U)
  stopAsked : Action.Keeps P U (method.noteSeen .stopAsked)
  log : ∀ text, Action.Keeps P U (Action.log Level.info .lifecycle text [] : Action W I S Unit)
  observe : ∀ o, Action.Keeps P U
    (Action.changeSolver fun s => { s with observers := s.observers.push o } : Action W I S Unit)
  overwrite : ∀ n, Action.Keeps P U (do
    Action.note (.overwritten n)
    Action.changeSolver fun s => { s with inner := method.setStagnation n s.inner } :
      Action W I S Unit)

namespace Upheld

variable {method : Method W I S} {cast : Cast W S} {P U : Machine W I S → Prop}
  {due : News S → Machine W I S → Prop} {nested : Call → Action W I S Unit}

/-- A round that is past its first observer keeps the invariant, since nothing is due any more. -/
theorem round_succ (h : Upheld method cast P U due) (hs : ∀ c, Action.Keeps P U (nested c))
    (news : News S) (fuel place : Nat) :
    Action.Keeps P U (round method cast nested news fuel (place + 1)) := by
  -- The place moves on from turn to turn, and the list may have grown by then.
  induction fuel generalizing place with
  | zero => exact .unfinished h.rest
  | succ fuel ih =>
    intro m hP
    simp only [round, Action.run_bind, Action.run_get]
    cases ho : m.solver.observers[place + 1]? with
    | none => exact hP
    | some o =>
      exact ((h.later nested hs news place o).bind fun _ => ih (place + 1)) m ⟨hP, ho⟩

/-- A round makes the invariant good: its first observer is told what is due, or there is none. -/
theorem round_zero (h : Upheld method cast P U due) (hs : ∀ c, Action.Keeps P U (nested c))
    (news : News S) (fuel : Nat) :
    Action.Leads (due news) (round method cast nested news fuel 0) (fun _ => P)
      (Halt.Leaves P U) := by
  cases fuel with
  | zero => exact .throw (h.restDue news)
  | succ fuel =>
    intro m hdue
    simp only [round, Action.run_bind, Action.run_get]
    cases ho : m.solver.observers[0]? with
    | none => exact h.alone news m hdue ho
    | some o =>
      -- Only the first turn meets what is due; all others find the invariant.
      exact ((h.first nested hs news o).bind fun _ => h.round_succ hs news fuel 0) m ⟨hdue, ho⟩

theorem begin (h : Upheld method cast P U due) (hs : ∀ c, Action.Keeps P U (nested c))
    (fuel : Nat) : Action.Keeps P U (Solver.begin method cast nested fuel) :=
  h.enter.bind fun news => h.round_zero hs news fuel

theorem advance (h : Upheld method cast P U due) (hs : ∀ c, Action.Keeps P U (nested c))
    (fuel : Nat) : Action.Keeps P U (Solver.advance method cast nested fuel) :=
  h.stride.bind fun news => h.round_zero hs news fuel

theorem laps (h : Upheld method cast P U due) (hs : ∀ c, Action.Keeps P U (nested c))
    (stop : StopId) (limit : Option Value) (bound fuel count : Nat) :
    Action.Keeps P U (Solver.laps method cast nested stop limit bound fuel count) := by
  induction fuel generalizing count with
  | zero => exact .unfinished h.rest
  | succ fuel ih =>
    rw [Solver.laps]
    refine h.stopAsked.bind fun _ => (h.toHarmless.play hs _).bind fun stopped => ?_
    split
    · exact .pure _
    · refine (keeps_limitReached P U limit count).bind fun reached => ?_
      split
      · exact .pure _
      · exact (h.advance hs bound).bind fun _ => ih (count + 1)

theorem runUntil (h : Upheld method cast P U due) (hs : ∀ c, Action.Keeps P U (nested c))
    (fuel : Nat) (stop : StopId) (limit : Option Value) :
    Action.Keeps P U (Solver.runUntil method cast nested fuel stop limit) := by
  have hexcursion : Action.Keeps P U (excursion method cast nested fuel stop limit) :=
    Action.Keeps.get.bind fun _ => (h.log _).bind fun _ =>
      (h.laps hs stop limit fuel fuel 0).bind fun _ => Action.Keeps.get.bind fun _ => h.log _
  rw [runUntil_eq]
  refine Action.Keeps.get.bind fun m => ?_
  split
  · exact (h.begin hs fuel).bind fun _ => hexcursion
  · exact hexcursion

/-- Every call keeps the invariant, however deep calls nest. The induction is on the fuel. -/
theorem serve (h : Upheld method cast P U due) (fuel : Nat) (c : Call) :
    Action.Keeps P U (Solver.serve method cast fuel c) := by
  -- The calls nested in this one are served one level further down.
  induction fuel generalizing c with
  | zero => exact .unfinished h.rest
  | succ fuel ih =>
    cases c with
    | start => exact h.begin ih fuel
    | step => exact h.advance ih fuel
    | run stop limit => exact h.runUntil ih fuel stop limit
    | observe o => exact h.observe o
    | setStagnation n => exact h.overwrite n

/-- Every program keeps the invariant. -/
theorem play (h : Upheld method cast P U due) (fuel : Nat) (p : Program W S α) :
    Action.Keeps P U (p.play method (Solver.serve method cast fuel)) :=
  h.toHarmless.play (h.serve fuel) p

end Upheld

end Solver

end HillClimb
