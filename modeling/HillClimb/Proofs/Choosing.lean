import HillClimb.Proofs.Commits
import HillClimb.Proofs.Unfolding

set_option autoImplicit false

/-! # Chosen comparators

A search that is made with a comparator, and without an acceptance rule, puts the comparator into
the strict rule, and also keeps it itself (`LocalSearch.new`). The rule looks for a comparator anew
at every decision, and passes over one that does not count (`Comparator.firstCounting`). So the
search does in all its turns what a search without any rule does that asks one comparator about each
neighbour, once (`LocalSearch.methodBy`): the chosen one if it `counts`, and otherwise the natural
one. The result is `chosen_comparator_decides`. -/

namespace HillClimb

variable {W S α : Type} [Candidate S]

omit [Candidate S] in
theorem Comparator.firstCounting_cons (c : Comparator W S) (rest : List (Option (Comparator W S))) :
    firstCounting (some c :: rest) = if c.counts then c else firstCounting rest := rfl

/-- A comparator that is looked for twice is passed over twice, or not at all. -/
theorem Acceptance.strictly_twice (c : Comparator W S) (neighbor current : S) :
    strictly (some c) (some c) neighbor current
      = (if c.counts then c else .natural).isBetter neighbor current := by
  rw [strictly, Comparator.firstCounting_cons, Comparator.firstCounting_cons]
  cases c.counts <;> rfl

/-! ## Searches that ask a comparator -/

namespace LocalSearch

/-- Asks a comparator whether the neighbour is better than the current solution, in place of
    `decide`. -/
def weigh (c : Comparator W S) (neighbor : S) : Action W (LocalSearch W S) S Bool := do
  let current ← present (← get).solver.inner.current
  Action.note (.acceptanceAsked false neighbor (some current))
  Action.hook (c.isBetter neighbor current)

/-- Tries a neighbour, and goes by a comparator: the `move` with `weigh` in it. -/
def moveBy (c : Comparator W S) : Action W (LocalSearch W S) S (S × Bool) := do
  let neighbor ← createNeighbor
  let accepted ← weigh c neighbor
  conclude neighbor accepted
  debugCost (← get).solver.inner.current (stepMessage accepted) []
  return (neighbor, accepted)

/-- Local search that has no acceptance rule, and goes by a comparator. -/
def methodBy (c : Comparator W S) : Method W (LocalSearch W S) S := { method with move := moveBy c }

end LocalSearch

omit [Candidate S] in
/-- Two ways to search whose moves do the same make the same steps. -/
theorem Solver.run_stride_of_move {method method' : Method W (LocalSearch W S) S}
    {m : Machine W (LocalSearch W S) S}
    (hmove : m.solver.phase = .ready →
      method.move.runOn (m.noted .stepCalled) = method'.move.runOn (m.noted .stepCalled)) :
    (stride method).runOn m = (stride method').runOn m := by
  simp only [stride, Action.run_bind, Machine.run_noted, Action.run_get, Machine.solver_noted]
  by_cases hready : m.solver.phase = .ready
  · simp only [hready, ne_eq, not_true_eq_false, if_false, Action.run_bind, hmove hready]
  · simp only [hready, ne_eq, not_false_eq_true, if_true, Action.run_bind, Action.run_fail]

/-- What comes of the turn if the search is made this way. -/
def Turn.outcomeBy (method : Method W (LocalSearch W S) S) :
    Turn W S → Except Halt (News S) × Machine W (LocalSearch W S) S
  | .start m => (Solver.enter method).runOn m
  | .step m => (Solver.stride method).runOn m

/-- The turn does what a search does that goes by the comparator, by `methodBy`. -/
def Turn.GoesBy (c : Comparator W S) (t : Turn W S) : Prop :=
  t.outcome = t.outcomeBy (LocalSearch.methodBy c)

/-! ## Searches that a comparator was chosen for -/

/-- A search that the comparator was chosen for, and that is at some solution when it is ready. -/
structure Chosen (c : Comparator W S) (m : Machine W (LocalSearch W S) S) : Prop where
  comparator : m.solver.inner.comparator = some c
  acceptance : m.solver.inner.acceptance = some (.strict (some c))
  current : m.solver.phase = .ready → ∃ s, m.solver.inner.current = some s

theorem Entered.current {m : Machine W (LocalSearch W S) S}
    {result : Except Halt (News S) × Machine W (LocalSearch W S) S} (h : Entered m result)
    (hbefore : m.solver.phase = .ready → ∃ s, m.solver.inner.current = some s) :
    result.2.solver.phase = .ready → ∃ s, result.2.solver.inner.current = some s := by
  cases h with
  | failed ha =>
    rw [ha.solver]
    exact hbefore
  | @unreported initial cause m₁ m' ha ha' hcost =>
    exact fun _ => ⟨initial, by rw [ha'.solver]; rfl⟩
  | @entered initial m₁ m₂ ha ha' =>
    have hcurrent : m₂.solver.inner.current = some initial := by rw [ha'.solver]; rfl
    exact fun _ => ⟨initial, hcurrent⟩

omit [Candidate S] in
/-- A decision leads from one solution to one. -/
theorem Machine.current_judged {m : Machine W (LocalSearch W S) S}
    (h : ∃ s, m.solver.inner.current = some s) (neighbor : S) (accepted : Bool) :
    ∃ s, (m.judged neighbor accepted).solver.inner.current = some s := by
  cases accepted with
  | true => exact ⟨neighbor, rfl⟩
  | false => exact h

theorem Strode.current {m : Machine W (LocalSearch W S) S}
    {result : Except Halt (News S) × Machine W (LocalSearch W S) S} (h : Strode m result)
    (hbefore : m.solver.phase = .ready → ∃ s, m.solver.inner.current = some s) :
    result.2.solver.phase = .ready → ∃ s, result.2.solver.inner.current = some s := by
  cases h with
  | failed ha =>
    rw [ha.solver]
    exact hbefore
  | @unreported neighbor accepted cause m₁ m' hready hjudges ha ha' hcost =>
    rw [← ha.solver] at hbefore hready
    rw [ha'.solver]
    exact fun _ => Machine.current_judged (hbefore hready) neighbor accepted
  | @strode neighbor accepted m₁ m₂ hready hjudges ha ha' =>
    rw [← ha.solver] at hbefore hready
    have hcurrent := Machine.current_judged (hbefore hready) neighbor accepted
    rw [← ha'.solver] at hcurrent
    exact fun _ => hcurrent

namespace Chosen

variable {c : Comparator W S} {m m' : Machine W (LocalSearch W S) S}

omit [Candidate S] in
theorem of_blank (h : Chosen c m) (hblank : m'.solver.blank = m.solver.blank)
    (hcurrent : m'.solver.phase = .ready → ∃ s, m'.solver.inner.current = some s) :
    Chosen c m' :=
  ⟨(congrArg (fun s => s.inner.comparator) hblank).trans h.comparator,
    (congrArg (fun s => s.inner.acceptance) hblank).trans h.acceptance, hcurrent⟩

omit [Candidate S] in
theorem of_solver (h : Chosen c m) (hsolver : m'.solver = m.solver) : Chosen c m' := by
  refine h.of_blank (congrArg Solver.blank hsolver) ?_
  rw [hsolver]
  exact h.current

omit [Candidate S] in
theorem idle (h : Chosen c m) (hidle : m.Idle m') : Chosen c m' := by
  refine h.of_blank hidle.blank ?_
  rw [hidle.phase, hidle.current]
  exact h.current

theorem turn {t : Turn W S} (h : Chosen c t.before) : Chosen c t.outcome.2 := by
  refine h.of_blank t.blank ?_
  cases t with
  | start m => exact (LocalSearch.entered_enter m).current h.current
  | step m => exact (LocalSearch.strode_stride m).current h.current

/-- The strict rule decides as the comparator does that it finds, so `decide` is `weigh`. -/
theorem run_decide (h : Chosen c m) (hready : m.solver.phase = .ready) (neighbor : S) :
    (LocalSearch.decide neighbor).runOn m
      = (LocalSearch.weigh (if c.counts then c else .natural) neighbor).runOn m := by
  obtain ⟨current, hcurrent⟩ := h.current hready
  have hcomparator : (LocalSearch.asking m.solver).comparator = some c := h.comparator
  simp only [LocalSearch.decide, LocalSearch.weigh, LocalSearch.present, Action.run_bind,
    Action.run_get, Action.run_pure, h.acceptance, hcomparator, hcurrent, Acceptance.isCustom,
    Acceptance.accepts, Acceptance.strictly_twice]

theorem run_move (h : Chosen c m) (hready : m.solver.phase = .ready) :
    LocalSearch.move.runOn m
      = (LocalSearch.moveBy (if c.counts then c else .natural)).runOn m := by
  simp only [LocalSearch.move, LocalSearch.moveBy, Action.run_bind]
  -- The neighbour is made first, and that changes nothing about the solver.
  rcases LocalSearch.beside_createNeighbor.cases m with
    ⟨cause, m₁, hmade, hasked⟩ | ⟨neighbor, m₁, hmade, hasked⟩ <;> simp only [hmade]
  have hchosen : Chosen c m₁ := h.of_solver hasked.solver
  rw [hchosen.run_decide (by rw [hasked.solver]; exact hready)]

/-- Every turn goes by the comparator that the strict rule finds: `c` if it counts. -/
theorem goesBy {t : Turn W S} (h : Chosen c t.before) :
    t.GoesBy (if c.counts then c else .natural) := by
  cases t with
  | start m => rfl
  | step m =>
    have hcalled : Chosen c (m.noted .stepCalled) := h.of_solver rfl
    exact Solver.run_stride_of_move hcalled.run_move

end Chosen

/-! ## Sessions -/

/-- A search that is made by `LocalSearch.new` with a comparator, and without an acceptance rule,
    goes by that comparator in all its turns if it `counts`, and otherwise by the natural one. The
    strict rule with a comparator goes by it if it counts, and otherwise by that of the solver if
    that one counts. -/
theorem chosen_comparator_decides (cast : Cast W S) (fuel : Nat) (caller : Program W S α)
    {m m' : Machine W (LocalSearch W S) S} (hfresh : m.Fresh) {factory : Option (Factory W S)}
    {c : Comparator W S} (hnew : m.solver.inner = LocalSearch.new factory (some c) none)
    (hrun : ((caller.play LocalSearch.method
      (Solver.serve LocalSearch.method cast fuel)).runOn m).2 = m') :
    (∃ turns, m.Unfolds turns m' ∧ ∀ t ∈ turns, t.GoesBy (if c.counts then c else .natural)) ∧
      ∀ (neighbor current : S) (solver : AskingSolver W S),
        (Acceptance.strict (some c)).accepts neighbor (some current) solver
          = (if c.counts then c else Comparator.firstCounting [solver.comparator]).isBetter
              neighbor current := by
  refine ⟨?_, fun neighbor current solver => rfl⟩
  subst hrun
  have hchosen : Chosen c m := by
    refine ⟨by rw [hnew]; rfl, by rw [hnew]; rfl, fun hready => ?_⟩
    rw [hfresh.phase] at hready
    cases hready
  obtain ⟨turns, hturns⟩ := Solver.unfolds_session cast fuel caller m
  obtain ⟨-, hall⟩ := hturns.keeps (fun _ _ h hidle => h.idle hidle) (fun _ h => h.turn) hchosen
  exact ⟨turns, hturns, fun t ht => (hall t ht).goesBy⟩

/-- The machine of a new search that goes through a list of solutions by a comparator. -/
def Machine.listedBy (c : Comparator (List S) S) (solutions : List S) :
    Machine (List S) (LocalSearch (List S) S) S :=
  let m := Machine.listed solutions #[] Level.info
  { m with
    solver := { m.solver with inner := .new m.solver.inner.factory (some c) none } }

/-- By the comparator for the highest cost, the search goes up. -/
theorem chosen_comparator_decides_upwards :
    let m := Machine.listedBy (.cost false) ([3, 5, 4].map Bare.costing)
    let session : Program (List Bare) Bare Unit := do
      Program.calling .start
      Program.calling .step
      Program.calling .step
    let m' := ((session.play LocalSearch.method
      (Solver.serve LocalSearch.method Cast.eager 9)).runOn m).2
    m'.solver.steps = 2 ∧ m'.solver.inner.current = some (.costing 5) ∧
      ∃ turns, m.Unfolds turns m' ∧ ∀ t ∈ turns, t.GoesBy (.cost false) := by
  intro m session m'
  refine ⟨by decide +kernel, by decide +kernel, ?_⟩
  exact (chosen_comparator_decides Cast.eager 9 session ⟨rfl, rfl, rfl, rfl, rfl⟩
    (c := .cost false) rfl rfl).1

/-- By a comparator that finds nothing better a search would never move. If it does not count, the
    search that it was chosen for moves all the same. -/
theorem chosen_comparator_passed_over :
    let c : Comparator (List Bare) Bare := .custom false fun _ _ => pure false
    let m := (Turn.start (Machine.listedBy c ([5, 3].map Bare.costing))).outcome.2
    (Turn.step m).outcome.1 = .ok (.stepped (.costing 3) true) ∧
      ((Turn.step m).outcomeBy (LocalSearch.methodBy c)).1
        = .ok (.stepped (.costing 3) false) ∧
      ((Acceptance.strict (some c)).accepts (.costing 3) (some (.costing 5))
        { LocalSearch.asking m.solver with comparator := none }).answer m = .ok true ∧
      (c.isBetter (.costing 3) (.costing 5)).answer m = .ok false :=
  ⟨by decide +kernel, by decide +kernel, by decide +kernel, by decide +kernel⟩

end HillClimb
