import HillClimb.Proofs.Endings
import Mathlib.Order.Bounds.Basic

set_option autoImplicit false

/-! # The course of a run

A run starts the search unless it is started, writes a record, and then consults its stop condition
and makes a step by turns; a consultation that says so, or the limit, ends it, and it writes another
record. Here this is said of the `RunEvent`s, of what the run does itself, one event after another
(`RunEvent.Follow`). What observers and stop conditions do in between belongs to the event that they
are called in, so a run makes as many steps as it says it makes even if the search was started anew
meanwhile.

The laps of a run are taken apart first, from the fuel of `Solver.laps` to the relation `Laps`, and
from there to a list of events (`laps_returned`, `laps_failed`). The result is
`run_takes_its_course`. -/

namespace HillClimb

variable {W I S : Type}

/-- The first record of a run, which tells the name and the seed of the solver. -/
def Solver.firstRecord (s : Solver I) : String :=
  s.name ++ " iniciado (seed=" ++ toString s.seed ++ ")."

/-- The last record of a run, which tells that it has made so many steps. -/
def Solver.lastRecord (s : Solver I) (count : Nat) : String :=
  s.name ++ " finalizado após " ++ toString count ++ " passos."

/-! ## Limits -/

/-- There is a limit, and it is not above the number of steps. -/
def Limited (limit : Option Int) (count : Nat) : Prop := ∃ l ∈ limit, l ≤ (count : Int)

instance (limit : Option Int) (count : Nat) : Decidable (Limited limit count) :=
  decidable_of_iff (limit.any (· ≤ (count : Int))) (by cases limit <;> simp [Limited])

theorem Value.relate_atLeast_int (n l : Int) :
    (Value.int n).relate .atLeast (.int l) = .ok (decide (l ≤ n)) := by
  have hpos : (0 : Int) < Magnitude.unitsPerOne := by exact_mod_cast Magnitude.unitsPerOne_pos
  simp only [relate, relateAtoms, magnitude?, Magnitude.ofInt, Magnitude.order?]
  -- How large the unit is does not matter, and it is too large to compute with.
  generalize (Magnitude.unitsPerOne : Int) = u at hpos ⊢
  congr 1
  by_cases h : l ≤ n
  · have hle : l * u ≤ n * u := Int.mul_le_mul_of_nonneg_right h hpos.le
    simp [Relation.holds, h, Int.compare_eq_lt, hle]
  · have hlt : n * u < l * u := Int.mul_lt_mul_of_pos_right (Int.not_le.1 h) hpos
    simp [Relation.holds, h, Int.compare_eq_lt, hlt]

theorem Solver.run_limitReached (limit : Option Int) (count : Nat) (m : Machine W I S) :
    (Solver.limitReached (limit.map .int) count : Action W I S Bool).runOn m
      = (.ok (decide (Limited limit count)), m) := by
  cases limit with
  | none => simp [Solver.limitReached, Limited, Action.run_pure]
  | some l =>
    simp [Solver.limitReached, Limited, Value.relate_atLeast_int, Action.run_pure]

/-! ## Laps -/

section

variable [Candidate S] (method : Method W I S) (cast : Cast W S) (stop : StopId)
  (limit : Option Int)

/-- From this machine the lap is the last one of a run that has made so many steps, and this is the
    number of steps that the run makes, or the failure that ends it. -/
inductive LastLap (count : Nat) : Machine W I S → Except Failure Nat → Machine W I S → Prop
  | unanswered {m m' : Machine W I S} {cause : Failure}
      (hasked : Solver.Consults method cast stop m (.error cause) m') :
      LastLap count m (.error cause) m'
  | ended {m m' : Machine W I S} {answer : Bool}
      (hasked : Solver.Consults method cast stop m (.ok answer) m')
      (hover : answer = true ∨ Limited limit count) : LastLap count m (.ok count) m'
  | failed {m m₁ m' : Machine W I S} {cause : Failure}
      (hasked : Solver.Consults method cast stop m (.ok false) m₁)
      (hbelow : ¬ Limited limit count)
      (hstep : Solver.Serves method cast .step m₁ (.error cause) m') :
      LastLap count m (.error cause) m'

/-- From this machine the laps of a run that has made `count` steps end with this result. All but
    the `LastLap` consult and make a step. -/
inductive Laps : Nat → Machine W I S → Except Failure Nat → Machine W I S → Prop
  | last {count : Nat} {m m' : Machine W I S} {result : Except Failure Nat}
      (h : LastLap method cast stop limit count m result m') : Laps count m result m'
  | lap {count : Nat} {m m₁ m₂ m' : Machine W I S} {result : Except Failure Nat}
      (hasked : Solver.Consults method cast stop m (.ok false) m₁)
      (hbelow : ¬ Limited limit count) (hstep : Solver.Serves method cast .step m₁ (.ok ()) m₂)
      (hrest : Laps (count + 1) m₂ result m') : Laps count m result m'

variable {method cast stop limit} {count : Nat} {m m₁ m' : Machine W I S}
  {result : Except Failure Nat}

/-- A lap that is not the last one makes a step. -/
theorem Solver.run_laps_step {nested : Call → Action W I S Unit} {bound fuel : Nat}
    (hasked : (consult method cast nested stop).runOn m = (.ok false, m₁))
    (hbelow : ¬ Limited limit count) :
    (Solver.laps method cast nested stop (limit.map .int) bound (fuel + 1) count).runOn m
      = (advance method cast nested bound >>= fun _ =>
          Solver.laps method cast nested stop (limit.map .int) bound fuel
            (count + 1)).runOn m₁ := by
  rw [laps_succ, Action.run_bind, hasked]
  simp only [Bool.false_eq_true, if_false, Action.run_bind, run_limitReached, hbelow,
    decide_false]

/-- The last lap of a run ends it. -/
theorem Solver.ends_last (h : LastLap method cast stop limit count m result m') :
    Action.Ends (fun fuel => Solver.laps method cast (Solver.serve method cast fuel) stop
      (limit.map .int) fuel fuel count) m result m' := by
  cases h with
  | unanswered hasked =>
    obtain ⟨need, hasked⟩ := Action.Ends.settled (steady_consult stop) hasked
    refine ⟨need + 1, ?_⟩
    dsimp only
    rw [laps_succ, Action.run_bind, hasked (need + 1) (by omega)]
    rfl
  | @ended _ answer hasked hover =>
    obtain ⟨need, hasked⟩ := Action.Ends.settled (steady_consult stop) hasked
    refine ⟨need + 1, ?_⟩
    dsimp only
    rw [laps_succ, Action.run_bind, hasked (need + 1) (by omega)]
    cases answer with
    | true => rfl
    | false =>
      have hlimited : Limited limit count := by simpa using hover
      simp [Action.run_bind, run_limitReached, hlimited, Action.run_pure]
  | failed hasked hbelow hstep =>
    obtain ⟨need, hasked⟩ := Action.Ends.settled (steady_consult stop) hasked
    obtain ⟨need', hstep⟩ := hstep.advance
    refine ⟨max need need' + 1, ?_⟩
    dsimp only
    rw [run_laps_step (hasked _ (by omega)) hbelow, Action.run_bind, hstep _ (by omega)]
    rfl

/-- The laps of a run end as the relation `Laps` says. -/
theorem Solver.ends_laps :
    Action.Ends (fun fuel => Solver.laps method cast (Solver.serve method cast fuel) stop
        (limit.map .int) fuel fuel count) m result m' ↔
      Laps method cast stop limit count m result m' := by
  constructor
  · rintro ⟨bound, hrun⟩
    -- The laps are counted down, while the bound for all that is nested in them stays.
    suffices h : ∀ fuel count m, (laps method cast (Solver.serve method cast bound) stop
        (limit.map .int) bound fuel count).runOn m = (result.mapError .failed, m') →
        Laps method cast stop limit count m result m' from h bound count m hrun
    intro fuel
    induction fuel with
    | zero =>
      intro count m hrun
      exact absurd (congrArg Prod.fst hrun).symm (Action.mapError_failed_ne result)
    | succ fuel ih =>
      intro count m hrun
      rw [laps_succ] at hrun
      rcases Action.bind_ended hrun with ⟨cause, rfl, hasked⟩ | ⟨answer, m₁, hasked, hrun⟩
      · exact .last (.unanswered ⟨bound, hasked⟩)
      cases answer with
      | true =>
        obtain ⟨hresult, rfl⟩ := Prod.mk.inj hrun
        obtain rfl : result = .ok count := Action.mapError_failed_inj hresult.symm
        exact .last (.ended ⟨bound, hasked⟩ (.inl rfl))
      | false =>
        simp only [Bool.false_eq_true, if_false, Action.run_bind, run_limitReached,
          decide_eq_true_eq] at hrun
        split at hrun
        · rename_i hlimited
          obtain ⟨hresult, rfl⟩ := Prod.mk.inj hrun
          obtain rfl : result = .ok count := Action.mapError_failed_inj hresult.symm
          exact .last (.ended ⟨bound, hasked⟩ (.inr hlimited))
        · rename_i hbelow
          rcases Action.bind_ended hrun with ⟨cause, rfl, hstep⟩ | ⟨_, m₂, hstep, hrun⟩
          · exact .last (.failed ⟨bound, hasked⟩ hbelow ⟨bound + 1, hstep⟩)
          · exact .lap ⟨bound, hasked⟩ hbelow ⟨bound + 1, hstep⟩ (ih (count + 1) m₂ hrun)
  · intro h
    induction h with
    | last h => exact ends_last h
    | @lap count m m₁ m₂ m' result hasked hbelow hstep _ ih =>
      obtain ⟨need, hasked⟩ := Action.Ends.settled (steady_consult stop) hasked
      obtain ⟨need', hstep⟩ := hstep.advance
      obtain ⟨fuel, hrest⟩ := ih
      -- The rest of the laps is one lap shorter, and all that is nested gets the greatest bound.
      let bound := max (max need need') fuel + 1
      refine ⟨bound, ?_⟩
      show (laps method cast (Solver.serve method cast bound) stop _ bound bound _).runOn _ = _
      rw [run_laps_step (hasked bound (by omega)) hbelow, Action.run_bind, hstep bound (by omega)]
      have hwithin : (laps method cast (Solver.serve method cast fuel) stop (limit.map .int) fuel
          fuel (count + 1)).Within (laps method cast (Solver.serve method cast bound) stop
            (limit.map .int) bound (max (max need need') fuel) (count + 1)) :=
        within_laps (within_serve (by omega)) stop _ (by omega) (by omega) _
      exact (hwithin m₂ (by rw [hrest]; exact Action.mapError_failed_ne result)).trans hrest

end

/-! ## Events of a run -/

/-- A thing that a run does itself; the rest is done by whom it calls. -/
inductive RunEvent where
  /-- Calls for a start of the search, with this outcome. -/
  | start (outcome : Except Failure Unit)
  /-- Writes the first record. -/
  | announce
  /-- Consults the stop condition, with this outcome. -/
  | consult (outcome : Except Failure Bool)
  /-- Calls for a step, with this outcome. -/
  | step (outcome : Except Failure Unit)
  /-- Writes the last record, which tells so many steps. -/
  | report (count : Nat)

namespace RunEvent

/-- What a run does before its laps: it calls for a start unless the solver is `ready`. -/
def setOut : Phase → List RunEvent
  | .uninitialized => [.start (.ok ()), .announce]
  | .ready => [.announce]

/-- So many laps, in which the stop condition gives these answers. -/
def laps (answers : Nat → Bool) (k : Nat) : List RunEvent :=
  (List.range k).flatMap fun n => [.consult (.ok (answers n)), .step (.ok ())]

theorem laps_congr {answers answers' : Nat → Bool} {k : Nat}
    (h : ∀ n < k, answers n = answers' n) : laps answers k = laps answers' k := by
  rw [laps, laps, List.flatMap_def, List.flatMap_def]
  congr 1
  refine List.map_congr_left fun n hn => ?_
  rw [h n (List.mem_range.1 hn)]

theorem laps_succ (answers : Nat → Bool) (k : Nat) :
    laps answers (k + 1)
      = .consult (.ok (answers 0)) :: .step (.ok ()) :: laps (fun n => answers (n + 1)) k := by
  simp [laps, List.range_succ_eq_map, List.flatMap_map]

variable [Candidate S] (method : Method W I S) (cast : Cast W S) (stop : StopId)

/-- The event leads from the first machine to the second. A record is one more entry of the journal,
    if records of `Level.info` are written. -/
def Leads : RunEvent → Machine W I S → Machine W I S → Prop
  | .start outcome, m, m' => Solver.Serves method cast .start m outcome m'
  | .announce, m, m' => m' = m.logged m.solver.firstRecord
  | .consult outcome, m, m' => Solver.Consults method cast stop m outcome m'
  | .step outcome, m, m' => Solver.Serves method cast .step m outcome m'
  | .report count, m, m' => m' = m.logged (m.solver.lastRecord count)

/-- The events lead from the first machine to the second, one after another. -/
def Follow : List RunEvent → Machine W I S → Machine W I S → Prop
  | [], m, m' => m = m'
  | e :: events, m, m' => ∃ m₁, e.Leads method cast stop m m₁ ∧ Follow events m₁ m'

variable {method cast stop} {m m' : Machine W I S}

theorem follow_append {events events' : List RunEvent} :
    Follow method cast stop (events ++ events') m m' ↔
      ∃ m₁, Follow method cast stop events m m₁ ∧ Follow method cast stop events' m₁ m' := by
  induction events generalizing m with
  | nil => simp [Follow]
  | cons e events ih =>
    simp only [List.cons_append, Follow, ih]
    constructor
    · rintro ⟨m₁, he, m₂, hevents, hrest⟩
      exact ⟨m₂, ⟨m₁, he, hevents⟩, hrest⟩
    · rintro ⟨m₂, ⟨m₁, he, hevents⟩, hrest⟩
      exact ⟨m₁, he, m₂, hevents, hrest⟩

theorem follow_single {e : RunEvent} :
    Follow method cast stop [e] m m' ↔ e.Leads method cast stop m m' := by
  simp [Follow]

theorem follow_setOut_uninitialized :
    Follow method cast stop (setOut .uninitialized) m m' ↔
      ∃ m₁, Solver.Serves method cast .start m (.ok ()) m₁ ∧
        m' = m₁.logged m₁.solver.firstRecord :=
  exists_congr fun _ => and_congr_right' follow_single

theorem follow_setOut_ready :
    Follow method cast stop (setOut .ready) m m' ↔ m' = m.logged m.solver.firstRecord :=
  follow_single

end RunEvent

section

variable [Candidate S] {method : Method W I S} {cast : Cast W S} {stop : StopId}
  {limit : Option Int} {m m' : Machine W I S}

/-- All laps but the last one are answered in the negative, and made below the limit. -/
theorem Laps.events {count : Nat} {result : Except Failure Nat}
    (h : Laps method cast stop limit count m result m') :
    ∃ k m₁, (∀ n < k, ¬ Limited limit (count + n)) ∧
      RunEvent.Follow method cast stop (RunEvent.laps (fun _ => false) k) m m₁ ∧
        LastLap method cast stop limit (count + k) m₁ result m' := by
  induction h with
  | last h => exact ⟨0, _, by simp, rfl, h⟩
  | @lap count m m₁ m₂ m' result hasked hbelow hstep _ ih =>
    obtain ⟨k, m₃, hlimits, hevents, hlast⟩ := ih
    refine ⟨k + 1, m₃, fun n hn => ?_, ?_, ?_⟩
    · cases n with
      | zero => exact hbelow
      | succ n =>
        have := hlimits n (by omega)
        rwa [show count + 1 + n = count + (n + 1) by omega] at this
    · rw [RunEvent.laps_succ]
      exact ⟨m₁, hasked, m₂, hstep, hevents⟩
    · rwa [show count + 1 + k = count + (k + 1) by omega] at hlast

/-- Laps that are answered in the negative and made below the limit come before the others. -/
theorem Laps.of_events {count k : Nat} {m₁ : Machine W I S} {result : Except Failure Nat}
    (hlimits : ∀ n < k, ¬ Limited limit (count + n))
    (hevents : RunEvent.Follow method cast stop (RunEvent.laps (fun _ => false) k) m m₁)
    (hrest : Laps method cast stop limit (count + k) m₁ result m') :
    Laps method cast stop limit count m result m' := by
  induction k generalizing count m with
  | zero =>
    obtain rfl : m = m₁ := hevents
    exact hrest
  | succ k ih =>
    rw [RunEvent.laps_succ] at hevents
    obtain ⟨m₂, hasked, m₃, hstep, hevents⟩ := hevents
    refine .lap hasked (hlimits 0 (by omega)) hstep (ih (fun n hn => ?_) hevents ?_)
    · rw [show count + 1 + n = count + (n + 1) by omega]
      exact hlimits (n + 1) (by omega)
    · rwa [show count + 1 + k = count + (k + 1) by omega]

/-! ## Runs -/

variable (method cast stop limit)

/-- How a run goes on after its first record: a lap fails, or it comes to its last record. -/
inductive Onward : Machine W I S → Except Failure Unit → Machine W I S → Prop
  | failed {m m' : Machine W I S} {cause : Failure}
      (hlaps : Laps method cast stop limit 0 m (.error cause) m') : Onward m (.error cause) m'
  | finished {m m₁ m' : Machine W I S} {k : Nat}
      (hlaps : Laps method cast stop limit 0 m (.ok k) m₁)
      (hreport : (RunEvent.report k).Leads method cast stop m₁ m') : Onward m (.ok ()) m'

/-- How a run ends: the start of the search fails, or the run sets out and goes on (`Onward`). -/
inductive Course (m : Machine W I S) : Except Failure Unit → Machine W I S → Prop
  | unstarted {m' : Machine W I S} {cause : Failure} (hphase : m.solver.phase = .uninitialized)
      (hstart : Solver.Serves method cast .start m (.error cause) m') : Course m (.error cause) m'
  | onward {m₁ m' : Machine W I S} {result : Except Failure Unit}
      (hout : RunEvent.Follow method cast stop (RunEvent.setOut m.solver.phase) m m₁)
      (hrest : Onward method cast stop limit m₁ result m') : Course m result m'

variable {method cast stop limit}

namespace Solver

theorem ends_excursion {result : Except Failure Unit} :
    Action.Ends (fun fuel => excursion method cast (serve method cast fuel) fuel stop
        (limit.map .int)) m result m' ↔
      Onward method cast stop limit (m.logged m.solver.firstRecord) result m' := by
  unfold excursion
  rw [Action.ends_after (Action.run_get m), Action.ends_after (Action.run_log_lifecycle _ m),
    Action.ends_bind_const (steady_laps stop _ 0)]
  simp only [ends_laps]
  constructor
  · rintro (⟨cause, rfl, hlaps⟩ | ⟨k, m₂, hlaps, hreport⟩)
    · exact .failed hlaps
    · obtain ⟨hresult, rfl⟩ := Prod.mk.inj hreport
      obtain rfl : result = .ok () := Action.mapError_failed_inj hresult.symm
      exact .finished hlaps rfl
  · intro h
    cases h with
    | failed hlaps => exact .inl ⟨_, rfl, hlaps⟩
    | finished hlaps hreport =>
      obtain rfl := hreport
      exact .inr ⟨_, _, hlaps, rfl⟩

/-- A run starts the search unless it is started, and goes on from there. -/
theorem serves_run {result : Except Failure Unit} :
    Serves method cast (.run stop (limit.map .int)) m result m' ↔
      Course method cast stop limit m result m' := by
  have hrun : Serves method cast (.run stop (limit.map .int)) m result m' ↔
      Action.Ends (fun fuel => runUntil method cast (serve method cast fuel) fuel stop
        (limit.map .int)) m result m' := (Action.ends_succ (steady_serve _)).symm
  have hstart : ∀ result m', Serves method cast .start m result m' ↔
      Action.Ends (fun fuel => begin method cast (serve method cast fuel) fuel) m result m' :=
    fun _ _ => (Action.ends_succ (steady_serve _)).symm
  simp only [hrun, runUntil_eq]
  rw [Action.ends_after (Action.run_get m)]
  cases hphase : m.solver.phase with
  | uninitialized =>
    simp only [ne_eq, reduceCtorEq, not_false_eq_true, if_true]
    rw [Action.ends_bind (fun _ _ h => within_begin (within_serve h) h)
      fun _ => steady_excursion stop _]
    simp only [← hstart, ends_excursion]
    constructor
    · rintro (⟨cause, rfl, hstart⟩ | ⟨_, m₁, hstart, hrest⟩)
      · exact .unstarted hphase hstart
      · refine .onward ?_ hrest
        rw [hphase]
        exact RunEvent.follow_setOut_uninitialized.2 ⟨m₁, hstart, rfl⟩
    · intro h
      cases h with
      | unstarted _ hstart => exact .inl ⟨_, rfl, hstart⟩
      | onward hout hrest =>
        rw [hphase] at hout
        obtain ⟨m₁, hstart, rfl⟩ := RunEvent.follow_setOut_uninitialized.1 hout
        exact .inr ⟨(), m₁, hstart, hrest⟩
  | ready =>
    simp only [ne_eq, not_true_eq_false, if_false, ends_excursion]
    constructor
    · intro hrest
      refine .onward ?_ hrest
      rw [hphase]
      exact RunEvent.follow_setOut_ready.2 rfl
    · intro h
      cases h with
      | unstarted hphase' _ => simp [hphase] at hphase'
      | onward hout hrest =>
        rw [hphase] at hout
        obtain rfl := RunEvent.follow_setOut_ready.1 hout
        exact hrest

/-- A run returns the solution that the solver is at in the end. -/
theorem ends_run (limit : Option Int) {result : Except Failure (Option S)} :
    Action.Ends (fun fuel => run method cast fuel stop (limit.map .int)) m result m' ↔
      ∃ outcome, Course method cast stop limit m outcome m' ∧
        result = outcome.map fun _ => method.current m'.solver.inner := by
  unfold run
  rw [Action.ends_bind_const (steady_serve _)]
  constructor
  · rintro (⟨cause, rfl, hrun⟩ | ⟨_, m₁, hrun, hget⟩)
    · exact ⟨.error cause, serves_run.1 hrun, rfl⟩
    · obtain ⟨hresult, rfl⟩ := Prod.mk.inj hget
      exact ⟨.ok (), serves_run.1 hrun, Action.mapError_failed_inj hresult.symm⟩
  · rintro ⟨cause | _, hrun, rfl⟩
    · exact .inl ⟨cause, rfl, serves_run.2 hrun⟩
    · exact .inr ⟨(), m', serves_run.2 hrun, rfl⟩

end Solver

/-- A run is over after so many steps: the stop condition says so, given these answers, or the limit
    does. -/
def Over (limit : Option Int) (answers : Nat → Bool) (n : Nat) : Prop :=
  answers n = true ∨ Limited limit n

/-- Until a run is over all answers are in the negative. -/
theorem RunEvent.laps_of_not_over {answers : Nat → Bool} {k : Nat}
    (h : ∀ n < k, ¬ Over limit answers n) : laps answers k = laps (fun _ => false) k := by
  refine laps_congr fun n hn => ?_
  cases hanswer : answers n with
  | false => rfl
  | true => exact absurd (.inl hanswer) (h n hn)

theorem isLeast_over {answers : Nat → Bool} {k : Nat} :
    IsLeast {n | Over limit answers n} k ↔
      Over limit answers k ∧ ∀ n < k, ¬ Over limit answers n := by
  refine and_congr_right fun _ => ⟨fun h n hn hover => ?_, fun h n hover => ?_⟩
  · exact absurd (h hover) (by omega)
  · by_contra hn
    exact h n (by omega) hover

/-- The laps return `k` if and only if the run is over after `k` steps, and not before. -/
theorem laps_returned {k : Nat} :
    Laps method cast stop limit 0 m (.ok k) m' ↔
      ∃ answers, IsLeast {n | Over limit answers n} k ∧
        RunEvent.Follow method cast stop (RunEvent.laps answers k ++ [.consult (.ok (answers k))])
          m m' := by
  simp only [isLeast_over, RunEvent.follow_append, RunEvent.follow_single]
  constructor
  · intro h
    obtain ⟨k', m₁, hlimits, hevents, hlast⟩ := h.events
    simp only [Nat.zero_add] at hlimits hlast
    cases hlast with
    | @ended _ answer hasked hover =>
      -- The answers before the last one are those that the laps gave.
      have hbefore : ∀ n < k, ¬ Over limit (fun n => decide (n = k) && answer) n := by
        intro n hn hover
        exact hlimits n hn (hover.resolve_left (by simp [hn.ne]))
      refine ⟨fun n => decide (n = k) && answer, ⟨by simpa [Over] using hover, hbefore⟩, m₁, ?_, ?_⟩
      · rwa [RunEvent.laps_of_not_over hbefore]
      · show Solver.Consults method cast stop m₁ (.ok (decide (k = k) && answer)) m'
        simpa using hasked
  · rintro ⟨answers, ⟨hover, hbefore⟩, m₁, hevents, hasked⟩
    rw [RunEvent.laps_of_not_over hbefore] at hevents
    refine .of_events (k := k) (fun n hn hlimited => hbefore n (by omega) (.inr ?_)) hevents ?_
    · rwa [Nat.zero_add] at hlimited
    · rw [Nat.zero_add]
      exact .last (.ended hasked hover)

/-- The laps fail if and only if a consultation or a step does, before the run is over. -/
theorem laps_failed {cause : Failure} :
    Laps method cast stop limit 0 m (.error cause) m' ↔
      ∃ k answers, (∀ n < k, ¬ Over limit answers n) ∧
        (RunEvent.Follow method cast stop
            (RunEvent.laps answers k ++ [.consult (.error cause)]) m m' ∨
          ¬ Over limit answers k ∧ RunEvent.Follow method cast stop
            (RunEvent.laps answers k ++
              [.consult (.ok (answers k)), .step (.error cause)]) m m') := by
  simp only [RunEvent.follow_append]
  constructor
  · intro h
    obtain ⟨k, m₁, hlimits, hevents, hlast⟩ := h.events
    simp only [Nat.zero_add] at hlimits hlast
    have hbefore : ∀ n < k, ¬ Over limit (fun _ => false) n := by
      intro n hn hover
      exact hlimits n hn (hover.resolve_left (by simp))
    refine ⟨k, fun _ => false, hbefore, ?_⟩
    cases hlast with
    | unanswered hasked => exact .inl ⟨m₁, hevents, m', hasked, rfl⟩
    | @failed m₂ _ _ hasked hbelow hstep =>
      exact .inr ⟨by simpa [Over] using hbelow, m₁, hevents, m₂, hasked, m', hstep, rfl⟩
  · rintro ⟨k, answers, hbefore, h⟩
    rw [RunEvent.laps_of_not_over hbefore] at h
    have hlimits : ∀ n < k, ¬ Limited limit (0 + n) := by
      intro n hn hlimited
      rw [Nat.zero_add] at hlimited
      exact hbefore n hn (.inr hlimited)
    rcases h with ⟨m₁, hevents, hasked⟩ | ⟨hnot, m₁, hevents, m₂, hasked, hstep⟩
    · rw [RunEvent.follow_single] at hasked
      exact .of_events hlimits hevents (.last (.unanswered hasked))
    · rw [RunEvent.follow_single] at hstep
      simp only [Over, not_or, Bool.not_eq_true] at hnot
      rw [hnot.1] at hasked
      refine .of_events hlimits hevents (.last (.failed hasked ?_ hstep))
      rw [Nat.zero_add]
      exact hnot.2

theorem course_returned :
    Course method cast stop limit m (.ok ()) m' ↔
      ∃ k answers, IsLeast {n | Over limit answers n} k ∧
        RunEvent.Follow method cast stop
          (RunEvent.setOut m.solver.phase ++ RunEvent.laps answers k ++
            [.consult (.ok (answers k)), .report k]) m m' := by
  constructor
  · intro h
    cases h with
    | onward hout hrest =>
      cases hrest with
      | @finished _ m₂ k hlaps hreport =>
        obtain ⟨answers, hleast, hevents⟩ := laps_returned.1 hlaps
        obtain ⟨m₃, hevents, hasked⟩ := RunEvent.follow_append.1 hevents
        rw [RunEvent.follow_single] at hasked
        refine ⟨k, answers, hleast, ?_⟩
        rw [List.append_assoc]
        exact RunEvent.follow_append.2
          ⟨_, hout, RunEvent.follow_append.2 ⟨m₃, hevents, _, hasked, m', hreport, rfl⟩⟩
  · rintro ⟨k, answers, hleast, hevents⟩
    rw [List.append_assoc] at hevents
    obtain ⟨m₁, hout, hevents⟩ := RunEvent.follow_append.1 hevents
    obtain ⟨m₂, hevents, m₃, hasked, hreport⟩ := RunEvent.follow_append.1 hevents
    rw [RunEvent.follow_single] at hreport
    refine .onward hout (.finished (laps_returned.2 ⟨answers, hleast, ?_⟩) hreport)
    exact RunEvent.follow_append.2 ⟨m₂, hevents, m₃, hasked, rfl⟩

theorem course_failed {cause : Failure} :
    Course method cast stop limit m (.error cause) m' ↔
      m.solver.phase = .uninitialized ∧
          RunEvent.Follow method cast stop [.start (.error cause)] m m' ∨
        ∃ k answers, (∀ n < k, ¬ Over limit answers n) ∧
          (RunEvent.Follow method cast stop
              (RunEvent.setOut m.solver.phase ++ RunEvent.laps answers k ++
                [.consult (.error cause)]) m m' ∨
            ¬ Over limit answers k ∧
              RunEvent.Follow method cast stop
                (RunEvent.setOut m.solver.phase ++ RunEvent.laps answers k ++
                  [.consult (.ok (answers k)), .step (.error cause)]) m m') := by
  simp only [RunEvent.follow_single, List.append_assoc]
  constructor
  · intro h
    cases h with
    | unstarted hphase hstart => exact .inl ⟨hphase, hstart⟩
    | onward hout hrest =>
      cases hrest with
      | failed hlaps =>
        obtain ⟨k, answers, hbefore, h⟩ := laps_failed.1 hlaps
        refine .inr ⟨k, answers, hbefore,
          h.imp (fun hevents => ?_) (And.imp_right fun hevents => ?_)⟩
        all_goals exact RunEvent.follow_append.2 ⟨_, hout, hevents⟩
  · rintro (⟨hphase, hstart⟩ | ⟨k, answers, hbefore, h | ⟨hnot, h⟩⟩)
    · exact .unstarted hphase hstart
    all_goals obtain ⟨m₁, hout, hevents⟩ := RunEvent.follow_append.1 h
    · exact .onward hout (.failed (laps_failed.2 ⟨k, answers, hbefore, .inl hevents⟩))
    · exact .onward hout (.failed (laps_failed.2 ⟨k, answers, hbefore, .inr ⟨hnot, hevents⟩⟩))

/-- What a run does itself, from its call to its end. It returns after `k` steps if and only if it
    has set out, made `k` laps and consulted the stop condition once more, `k` being the least
    number of steps after which it is `Over`, by the stop condition or by the limit; then it writes
    its last record and returns the solution that the solver is at. It fails if and only if one of
    its calls does: the start, a consultation, or a step, and nothing comes after. -/
theorem run_takes_its_course (method : Method W I S) (cast : Cast W S) (stop : StopId)
    (limit : Option Int) (m m' : Machine W I S) :
    (∀ solution, Action.Ends (fun fuel => Solver.run method cast fuel stop (limit.map .int)) m
        (.ok solution) m' ↔
      solution = method.current m'.solver.inner ∧
        ∃ k answers, IsLeast {n | Over limit answers n} k ∧
          RunEvent.Follow method cast stop
            (RunEvent.setOut m.solver.phase ++ RunEvent.laps answers k ++
              [.consult (.ok (answers k)), .report k]) m m') ∧
    ∀ cause, Action.Ends (fun fuel => Solver.run method cast fuel stop (limit.map .int)) m
        (.error cause) m' ↔
      m.solver.phase = .uninitialized ∧
          RunEvent.Follow method cast stop [.start (.error cause)] m m' ∨
        ∃ k answers, (∀ n < k, ¬ Over limit answers n) ∧
          (RunEvent.Follow method cast stop
              (RunEvent.setOut m.solver.phase ++ RunEvent.laps answers k ++
                [.consult (.error cause)]) m m' ∨
            ¬ Over limit answers k ∧
              RunEvent.Follow method cast stop
                (RunEvent.setOut m.solver.phase ++ RunEvent.laps answers k ++
                  [.consult (.ok (answers k)), .step (.error cause)]) m m') := by
  refine ⟨fun solution => ?_, fun cause => ?_⟩
  · rw [Solver.ends_run, ← course_returned]
    constructor
    · rintro ⟨cause | _, hcourse, hsolution⟩
      · cases hsolution
      · exact ⟨Except.ok.inj hsolution, hcourse⟩
    · rintro ⟨rfl, hcourse⟩
      exact ⟨.ok (), hcourse, rfl⟩
  · rw [Solver.ends_run, ← course_failed]
    constructor
    · rintro ⟨cause' | _, hcourse, hcause⟩
      · obtain rfl : cause = cause' := Except.error.inj hcause
        exact hcourse
      · cases hcause
    · exact fun hcourse => ⟨.error cause, hcourse, rfl⟩

end

end HillClimb
