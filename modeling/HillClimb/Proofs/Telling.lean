import HillClimb.Proofs.History
import HillClimb.Solver.LocalSearch

set_option autoImplicit false

/-! # Trajectories that tell of a stretch

A trajectory tells of a stretch if its three lists are those of the stretch's decisions
(`Trajectory.Tells`). Recording the news of a start makes it tell of the new stretch
(`tells_of_started`), and recording the news of a step makes it tell of the stretch with that step
(`tells_of_stepped`), as long as all costs are known. -/

namespace HillClimb

variable {W S : Type} [Candidate S]

/-! ## Trajectories that tell of a stretch -/

/-- The trajectory tells of the stretch: the `accepted` flags and the `neighborCosts` are those of
    the decisions, and the `costs` start at the initial solution, go to the neighbour's where it was
    accepted, stay where it was not, and end at the current solution. -/
structure Trajectory.Tells (t : Trajectory) (st : Stretch S) : Prop where
  accepted : t.accepted.toList = st.decisions.map Prod.snd
  neighbors : t.neighborCosts.toList.map Except.ok
    = st.decisions.map fun d => Candidate.costs d.1
  length : t.costs.toList.length = st.decisions.length + 1
  first : ∃ v, Candidate.costs st.initial = .ok v ∧ t.costs.toList[0]? = some v
  next : ∀ i accepted, t.accepted.toList[i]? = some accepted →
    t.costs.toList[i + 1]? = if accepted then t.neighborCosts.toList[i]? else t.costs.toList[i]?
  last : ∃ v, Candidate.costs st.current = .ok v ∧
    t.costs.toList[st.decisions.length]? = some v

namespace Trajectory.Tells

/-- The trajectory after a start. -/
theorem chosen {s : S} {v : Value} (hv : Candidate.costs s = .ok v) :
    (Trajectory.empty.pushCosts v).Tells ⟨s, []⟩ := by
  refine ⟨rfl, rfl, rfl, ⟨v, hv, rfl⟩, fun i accepted h => ?_, ⟨v, hv, rfl⟩⟩
  cases h

/-- The trajectory after one more step. -/
theorem decide {t : Trajectory} {st : Stretch S} (h : t.Tells st) {neighbor : S}
    {accepted : Bool} {x y : Value} (hx : Candidate.costs neighbor = .ok x)
    (hy : Candidate.costs (st.decide neighbor accepted).current = .ok y) :
    ((t.pushNeighbor x accepted).pushCosts y).Tells (st.decide neighbor accepted) := by
  -- All lists are as long as the stretch, and that of the costs is one longer.
  have hlenA : t.accepted.toList.length = st.decisions.length := by
    rw [h.accepted, List.length_map]
  have hlenN : t.neighborCosts.toList.length = st.decisions.length := by
    simpa using congrArg List.length h.neighbors
  have hlenC := h.length
  refine ⟨?_, ?_, ?_, ?_, ?_, ?_⟩
  · simp [pushNeighbor, pushCosts, h.accepted, Stretch.decide]
  · simp [pushNeighbor, pushCosts, Stretch.decide, h.neighbors, hx]
  · simp [pushNeighbor, pushCosts, hlenC, Stretch.decide]
  · obtain ⟨v, hv, hfirst⟩ := h.first
    refine ⟨v, hv, ?_⟩
    simp only [pushNeighbor, pushCosts, Trail.toList_push]
    rw [List.getElem?_append_left (by omega)]
    exact hfirst
  · intro i a ha
    simp only [pushNeighbor, pushCosts, Trail.toList_push] at ha ⊢
    rcases Nat.lt_or_ge i st.decisions.length with hi | hi
    · rw [List.getElem?_append_left (by omega)] at ha
      rw [List.getElem?_append_left (by omega), List.getElem?_append_left (by omega),
        List.getElem?_append_left (by omega)]
      exact h.next i a ha
    · -- The new step: its cost is the neighbour's if that was accepted, else the one before it.
      rw [List.getElem?_append_right (by omega), List.getElem?_singleton] at ha
      split at ha
      · obtain rfl := Option.some.inj ha
        obtain rfl : i = st.decisions.length := by omega
        rw [← hlenC, List.getElem?_concat_length]
        rw [Stretch.current_decide] at hy
        cases accepted with
        | true =>
          rw [if_pos rfl, hx, Except.ok.injEq] at hy
          rw [if_pos rfl, ← hlenN, List.getElem?_concat_length, hy]
        | false =>
          obtain ⟨v, hv, hlast⟩ := h.last
          rw [if_neg Bool.false_ne_true, hv, Except.ok.injEq] at hy
          rw [if_neg Bool.false_ne_true, List.getElem?_append_left (by omega), hlast, hy]
      · cases ha
  · refine ⟨y, hy, ?_⟩
    simp only [pushNeighbor, pushCosts, Trail.toList_push, Stretch.length_decide]
    rw [← hlenC, List.getElem?_concat_length]

end Trajectory.Tells

/-! ## One recording -/

section

variable {m : Machine W (LocalSearch W S) S} {news : News S} {o p : ObserverId}

/-- The recording of the observer is the only one that is changed by `Action.record`. -/
theorem recordings_of_record :
    ((Action.record LocalSearch.method o news).runOn m).2.recordings.of p
      = if o = p then ((Recording.record m.solver.inner.current news).run
          ⟨m.recordings.of o, #[]⟩).2.trajectory
        else m.recordings.of p := by
  rw [Action.run_record]
  exact (Recordings.of_put_take _ _ _ _).trans (Recordings.of_put _ _ _ _)

/-- Whatever was asked for a recording stands in the history, as a `probed` entry. -/
theorem probed_of_record (m : Machine W (LocalSearch W S) S) (o : ObserverId) (news : News S)
    {q : Probe S} (h : q ∈ ((Recording.record m.solver.inner.current news).run
      ⟨m.recordings.of o, #[]⟩).2.probes) :
    Entry.probed q ∈ ((Action.record LocalSearch.method o news).runOn m).2.past := by
  rw [Action.run_record]
  refine Array.mem_toList_iff.2 (Array.mem_append.2 (.inr (Array.mem_map.2 ⟨q, h, rfl⟩)))

/-- After the record of a start the recording tells of the new stretch. -/
theorem tells_of_started {s : S} (hknown : CostsKnown
      ((Action.record LocalSearch.method o (.started (some s))).runOn m).2.past) :
    (((Action.record LocalSearch.method o (.started (some s))).runOn m).2.recordings.of o).Tells
      ⟨s, []⟩ := by
  have hasked := fun q => probed_of_record m o (.started (some s)) (q := q)
  rw [recordings_of_record, if_pos rfl]
  simp only [Recording.record, run_bind_state, Recording.run_change, Recording.run_costs]
    at hasked ⊢
  cases hv : Candidate.costs s with
  | ok v => exact Trajectory.Tells.chosen hv
  | error cause => exact absurd hv (hknown.not_failed (hasked (.costs s) (by simp [hv])) cause)

/-- After the record of a step the recording tells of the stretch with that step. -/
theorem tells_of_stepped {st : Stretch S} {neighbor : S} {accepted : Bool}
    (hst : (m.recordings.of o).Tells st)
    (hcurrent : m.solver.inner.current = some (st.decide neighbor accepted).current)
    (hknown : CostsKnown
      ((Action.record LocalSearch.method o (.stepped neighbor accepted)).runOn m).2.past) :
    (((Action.record LocalSearch.method o (.stepped neighbor accepted)).runOn m).2.recordings.of
      o).Tells (st.decide neighbor accepted) := by
  have hasked := fun q => probed_of_record m o (.stepped neighbor accepted) (q := q)
  rw [recordings_of_record, if_pos rfl]
  simp only [Recording.record, run_bind_state, Recording.run_change, Recording.run_costs, hcurrent]
    at hasked ⊢
  cases hx : Candidate.costs neighbor with
  | error cause =>
    exact absurd hx (hknown.not_failed (hasked (.costs neighbor) (by simp [hx])) cause)
  | ok x =>
    cases hy : Candidate.costs (st.decide neighbor accepted).current with
    | error cause =>
      have hasked' := hasked (.costs (st.decide neighbor accepted).current)
        (by simp [hx, hy, -Stretch.current_decide])
      exact absurd hy (hknown.not_failed hasked' cause)
    | ok y =>
      exact hst.decide hx hy

end

end HillClimb
