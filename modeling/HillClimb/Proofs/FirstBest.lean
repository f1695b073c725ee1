import HillClimb.Proofs.Decisions
import HillClimb.Proofs.ValueOrder

set_option autoImplicit false

/-! # Hill climbing finds the first best solution

A search that takes strictly better neighbours only, and compares them by their costs, is always at
the earliest of the best solutions that it has made since its start, and the count of rejections
says how many it has made after that one (`FirstBest`). The costs need no more than that they are
free of `nan` and that any two of them can be compared (`Rankable`).

A stretch that is ruled by costs is at its first best solution (`firstBest_of_ruled`), and so is
what is seen of the search (`current_is_first_best`). -/

namespace HillClimb

variable {W S : Type} [Candidate S]

/-! ## Better solutions -/

/-- A solution has one cost. -/
theorem cost_unique {a : S} {x y : Value} (hx : Candidate.costs a = .ok x)
    (hy : Candidate.costs a = .ok y) : x = y :=
  Except.ok.inj (hx.symm.trans hy)

/-- The first solution has a strictly lower cost than the second, or a strictly higher one if not
    `minimize`. -/
def Beats (minimize : Bool) (a b : S) : Prop :=
  ∃ x y, Candidate.costs a = .ok x ∧ Candidate.costs b = .ok y ∧ Value.Beats minimize x y

theorem beats_irrefl (minimize : Bool) (a : S) : ¬ Beats minimize a a := by
  rintro ⟨x, y, hx, hy, h⟩
  obtain rfl := cost_unique hx hy
  exact Value.beats_irrefl minimize x h

theorem Beats.trans {minimize : Bool} {a b c : S} (hab : Beats minimize a b)
    (hbc : Beats minimize b c) : Beats minimize a c := by
  obtain ⟨x, y, hx, hy, hxy⟩ := hab
  obtain ⟨y', z, hy', hz, hyz⟩ := hbc
  obtain rfl := cost_unique hy hy'
  exact ⟨x, z, hx, hz, hxy.trans hyz⟩

/-- The costs of the two solutions are in order. -/
def InOrder (a b : S) : Prop :=
  ∃ x y, Candidate.costs a = .ok x ∧ Candidate.costs b = .ok y ∧ (x.order? y).isSome

theorem InOrder.symm {a b : S} (h : InOrder a b) : InOrder b a := by
  obtain ⟨x, y, hx, hy, ho⟩ := h
  refine ⟨y, x, hy, hx, ?_⟩
  rwa [Value.order?_swap.1 x y, Option.isSome_map]

/-- What is in order with the two is beaten by the better one or beats the worse one. -/
theorem Beats.cotrans {minimize : Bool} {a b c : S} (hac : Beats minimize a c)
    (hab : InOrder a b) (hbc : InOrder b c) : Beats minimize a b ∨ Beats minimize b c := by
  obtain ⟨x, z, hx, hz, hxz⟩ := hac
  obtain ⟨x', y, hx', hy, hxy⟩ := hab
  obtain ⟨y', z', hy', hz', hyz⟩ := hbc
  obtain rfl := cost_unique hx hx'
  obtain rfl := cost_unique hy hy'
  obtain rfl := cost_unique hz hz'
  exact (hxz.cotrans hxy hyz).imp (fun h => ⟨x, y, hx, hy, h⟩) fun h => ⟨y, z, hy, hz, h⟩

/-- All costs are known and free of `nan`, and any two of them can be compared. -/
structure Rankable (sols : List S) : Prop where
  known : ∀ s ∈ sols, ∃ v, Candidate.costs s = .ok v ∧ v.NanFree
  comparable : sols.Pairwise fun a b => ∀ x y, Candidate.costs a = .ok x →
    Candidate.costs b = .ok y → ∃ lower, x.relate .less y = .ok lower

/-- Of `Rankable` solutions any two are `InOrder`. -/
theorem Rankable.pairwise {sols : List S} (h : Rankable sols) : sols.Pairwise InOrder := by
  refine h.comparable.imp_of_mem fun {a b} ha hb hab => ?_
  obtain ⟨x, hx, hnx⟩ := h.known a ha
  obtain ⟨y, hy, hny⟩ := h.known b hb
  obtain ⟨lower, hlower⟩ := hab x y hx hy
  exact ⟨x, y, hx, hy, (Value.isSome_order? .less).1 x y lower hnx hny hlower⟩

theorem Rankable.of_append {sols later : List S} (h : Rankable (sols ++ later)) : Rankable sols :=
  ⟨fun s hs => h.known s (List.mem_append_left _ hs), (List.pairwise_append.1 h.comparable).1⟩

/-! ## Comparators that go by costs -/

/-- Among these solutions the comparator prefers the lower cost, or the higher one: it is a
    `CostComparator`, or a `NaturalComparator` of solutions that go by their costs. -/
inductive Comparator.ByCosts (sols : List S) : Comparator W S → Bool → Prop
  | natural (h : ∀ a ∈ sols, ∀ b ∈ sols, Candidate.preference a b = .lowerCost) :
      ByCosts sols .natural true
  | cost (minimize : Bool) : ByCosts sols (.cost minimize) minimize

/-- Costs that were compared were known, and the answer is theirs. -/
theorem Hook.costs_of_relateCosts {r : Relation} {answer : Bool} {a b : S} {state : HookState W S}
    (h : ((Hook.relateCosts r a b).runAt state).1 = .ok answer) :
    ∃ x y, Candidate.costs a = .ok x ∧ Candidate.costs b = .ok y ∧ x.relate r y = .ok answer := by
  rw [Hook.relateCosts, Hook.run_bind, Hook.run_costs] at h
  cases hx : Candidate.costs a with
  | error cause => simp [hx] at h
  | ok x =>
    simp only [hx] at h
    rw [Hook.run_bind, Hook.run_costs] at h
    cases hy : Candidate.costs b with
    | error cause => simp [hy] at h
    | ok y =>
      simp only [hy, Hook.run_ofExcept] at h
      exact ⟨x, y, rfl, rfl, h⟩

theorem Hook.beats_of_relateCosts {minimize answer : Bool} {a b : S} {state : HookState W S}
    (h : ((Hook.relateCosts (if minimize then .less else .greater) a b).runAt state).1
      = .ok answer) : answer = true ↔ Beats minimize a b := by
  obtain ⟨x, y, hx, hy, hanswer⟩ := Hook.costs_of_relateCosts h
  constructor
  · rintro rfl
    exact ⟨x, y, hx, hy, hanswer⟩
  · rintro ⟨x', y', hx', hy', hbeats⟩
    obtain rfl := cost_unique hx hx'
    obtain rfl := cost_unique hy hy'
    rw [Value.Beats, hanswer, Except.ok.injEq] at hbeats
    exact hbeats

theorem Comparator.ByCosts.beats_of_isBetter {c : Comparator W S} {minimize answer : Bool}
    {sols : List S} (hc : c.ByCosts sols minimize) {a b : S} (ha : a ∈ sols) (hb : b ∈ sols)
    {state : HookState W S} (h : ((c.isBetter a b).runAt state).1 = .ok answer) :
    answer = true ↔ Beats minimize a b := by
  cases hc with
  | natural hpreference =>
    simp only [isBetter, Hook.prefers, Hook.run_bind, Hook.run_ask, hpreference a ha b hb] at h
    exact (Hook.beats_of_relateCosts h : answer = true ↔ Beats true a b)
  | cost minimize => exact Hook.beats_of_relateCosts h

/-- The strict rule with such a comparator takes what `Beats` the current solution. -/
theorem Comparator.ByCosts.beats_of_answers {c : Comparator W S} {minimize accepted : Bool}
    {sols : List S} (hc : c.ByCosts sols minimize) {neighbor current : S}
    (hn : neighbor ∈ sols) (hcur : current ∈ sols)
    (h : (Acceptance.strict (some c)).Answers neighbor current accepted) :
    accepted = true ↔ Beats minimize neighbor current := by
  obtain ⟨solver, state, h⟩ := h
  have hcounts : c.counts = true := by cases hc <;> rfl
  simp only [Acceptance.accepts, Acceptance.strictly, Comparator.firstCounting, hcounts,
    if_true] at h
  exact hc.beats_of_isBetter hn hcur h

theorem Comparator.ByCosts.subset {c : Comparator W S} {minimize : Bool} {sols sols' : List S}
    (hc : c.ByCosts sols minimize) (h : ∀ s ∈ sols', s ∈ sols) : c.ByCosts sols' minimize := by
  cases hc with
  | natural hpreference =>
    exact .natural fun a ha b hb => hpreference a (h a ha) b (h b hb)
  | cost => exact .cost minimize

/-! ## The first best solution -/

/-- No solution beats this one, each earlier one is beaten, and so many came later. -/
structure FirstBest (minimize : Bool) (sols : List S) (s : S) (later : Nat) : Prop where
  best : ∀ a ∈ sols, ¬ Beats minimize a s
  first : ∃ before after, sols = before ++ s :: after ∧ after.length = later ∧
    ∀ b ∈ before, ∃ a ∈ sols, Beats minimize a b

/-- A first best solution that is beaten gives way to the one that beats it. -/
theorem FirstBest.replaced {minimize : Bool} {sols : List S} {s n : S} {later : Nat}
    (h : FirstBest minimize sols s later) (horder : (sols ++ [n]).Pairwise InOrder)
    (hbeats : Beats minimize n s) : FirstBest minimize (sols ++ [n]) n 0 := by
  obtain ⟨hbest, before, after, rfl, -, hfirst⟩ := h
  refine ⟨fun a ha => ?_, before ++ s :: after, [], rfl, rfl, fun b hb => ?_⟩
  · rcases List.mem_append.1 ha with ha | ha
    · exact fun han => hbest a ha (han.trans hbeats)
    · rw [List.mem_singleton.1 ha]
      exact beats_irrefl minimize n
  · rcases List.mem_append.1 hb with hb' | hb'
    · obtain ⟨a, ha, hab⟩ := hfirst b hb'
      exact ⟨a, List.mem_append_left _ ha, hab⟩
    refine ⟨n, List.mem_append_right _ (List.mem_singleton_self n), ?_⟩
    rcases List.mem_cons.1 hb' with rfl | hb'
    · exact hbeats
    · -- What came after the old best is no better than it, so the new one beats it, too.
      have hpairs := List.pairwise_append.1 horder
      have hbn := (hpairs.2.2 b hb n (List.mem_singleton_self n)).symm
      have hsb := (List.pairwise_cons.1 (List.pairwise_append.1 hpairs.1).2.1).1 b hb'
      rcases hbeats.cotrans hbn hsb.symm with h | h
      · exact h
      · exact absurd h (hbest b hb)

/-- A first best solution that is not beaten stays. -/
theorem FirstBest.kept {minimize : Bool} {sols : List S} {s n : S} {later : Nat}
    (h : FirstBest minimize sols s later) (hbeats : ¬ Beats minimize n s) :
    FirstBest minimize (sols ++ [n]) s (later + 1) := by
  obtain ⟨hbest, before, after, rfl, hlater, hfirst⟩ := h
  refine ⟨fun a ha => ?_, before, after ++ [n], by simp, by simp [hlater], fun b hb => ?_⟩
  · rcases List.mem_append.1 ha with ha | ha
    · exact hbest a ha
    · rwa [List.mem_singleton.1 ha]
  · obtain ⟨a, ha, hab⟩ := hfirst b hb
    exact ⟨a, List.mem_append_left _ ha, hab⟩

/-- A stretch ruled by costs is at its first best solution: the induction is on the stretch, along
    `Stretch.Ruled`. -/
theorem firstBest_of_ruled {c : Comparator W S} {minimize : Bool} {st : Stretch S}
    (h : st.Ruled (Acceptance.strict (some c)).Answers) (hc : c.ByCosts st.generated minimize)
    (hrank : Rankable st.generated) :
    FirstBest minimize st.generated st.current st.rejections := by
  induction h with
  | chosen s =>
    refine ⟨fun a ha => ?_, [], [], rfl, rfl, by simp⟩
    rw [show a = s from List.mem_singleton.1 ha]
    exact beats_irrefl minimize s
  | @decided st neighbor accepted h hR ih =>
    rw [Stretch.generated_decide] at hc hrank ⊢
    rw [Stretch.current_decide, Stretch.rejections_decide]
    -- What holds of all solutions holds of those before the last decision.
    have hold : ∀ s ∈ st.generated, s ∈ st.generated ++ [neighbor] :=
      fun s hs => List.mem_append_left _ hs
    have hbest := ih (hc.subset hold) hrank.of_append
    have hbeats := hc.beats_of_answers (List.mem_append_right _ (List.mem_singleton_self neighbor))
      (hold _ (Stretch.current_mem_generated h)) hR
    cases accepted with
    | true => exact hbest.replaced hrank.pairwise (hbeats.1 rfl)
    | false => exact hbest.kept fun hn => Bool.false_ne_true (hbeats.2 hn)

/-! ## What is seen -/

/-- The search is at the first best solution of its present stretch, as it was after every decision
    in the stretch, and the count of rejections tells how many solutions came later. A neighbour
    was accepted if and only if it beat the solution that was current then, so a tie never was. -/
structure AtFirstBest (minimize : Bool) (st : Stretch S) (seen : View S) : Prop where
  current : seen.current = some st.current
  stagnation : seen.stagnation = some (st.rejections : Int)
  best : FirstBest minimize st.generated st.current st.rejections
  always : ∀ n ≤ st.decisions.length, FirstBest minimize (st.generated.take (n + 1))
    (st.upTo n).current (st.upTo n).rejections
  decisions : ∀ n neighbor accepted, st.decisions[n]? = some (neighbor, accepted) →
    (accepted = true ↔ Beats minimize neighbor (st.upTo n).current)

/-- In a search that goes by costs, what is seen is the first best of a rankable stretch. -/
theorem atFirstBest_of_ruled {c : Comparator W S} {minimize : Bool} {past : List (Entry S)}
    {seen : View S} (hseen : Located past seen) (hcount : ∀ e ∈ past, e.isOverwriting = false)
    (hruled : Everywhere (fun before e => e.RuledBy (Acceptance.strict (some c)) before) past)
    {st : Stretch S} (hst : stretchOf past = some st) (hc : c.ByCosts st.generated minimize)
    (hrank : Rankable st.generated) : AtFirstBest minimize st seen := by
  have hst' := ruled_of_everywhere hruled hst
  have hmem : ∀ n, ∀ s ∈ (st.upTo n).generated, s ∈ st.generated := by
    intro n s hs
    rw [Stretch.generated_upTo] at hs
    exact List.mem_of_mem_take hs
  refine ⟨hseen.current_of_stretch hst, hseen.stagnation_of_stretch hcount hst,
    firstBest_of_ruled hst' hc hrank, fun n _ => ?_, fun n neighbor accepted hn => ?_⟩
  · rw [← Stretch.generated_upTo]
    refine firstBest_of_ruled (hst'.upTo n) (hc.subset (hmem n)) ?_
    rw [← List.take_append_drop (n + 1) st.generated] at hrank
    rw [Stretch.generated_upTo]
    exact hrank.of_append
  · refine hc.beats_of_answers ?_ (hmem n _ (Stretch.current_mem_generated (hst'.upTo n)))
      (hst'.decision hn)
    exact List.mem_cons_of_mem _ (List.mem_map_of_mem (List.mem_of_getElem? hn))

/-- A search with the `StrictImprovementAcceptance` and a comparator that goes by costs is seen at
    the first best of the solutions that it has made since its start, at every moment. -/
theorem current_is_first_best {α : Type} (cast : Cast W S) (fuel : Nat) (caller : Program W S α)
    {m m' : Machine W (LocalSearch W S) S} (hfresh : m.Fresh) {c : Comparator W S}
    (hrule : m.solver.inner.acceptance = some (.strict (some c))) {minimize : Bool}
    (hrun : ((caller.play LocalSearch.method
      (Solver.serve LocalSearch.method cast fuel)).runOn m).2 = m')
    (hcount : ∀ e ∈ m'.past, e.isOverwriting = false) :
    EverySight (fun before _ seen => ∀ st, stretchOf before = some st →
        c.ByCosts st.generated minimize → Rankable st.generated →
          AtFirstBest minimize st seen.toView) m'.past ∧
      ∀ st, stretchOf m'.past = some st → c.ByCosts st.generated minimize →
        Rankable st.generated → AtFirstBest minimize st (LocalSearch.method.view m'.solver) := by
  subst hrun
  have hgoverned := (Governed.lasting (.strict (some c)) m.level).holds cast fuel caller
    ⟨hfresh.standing, hrule, by rw [hfresh.past]; exact .nil⟩
  refine ⟨fun before e after hsplit seen hseen st hst hc hrank => ?_, fun st hst hc hrank => ?_⟩
  · have hruled := hgoverned.ruled
    have hlocated := (hgoverned.sights before e after hsplit seen hseen).located
    rw [hsplit] at hruled hcount
    exact atFirstBest_of_ruled hlocated (fun e' he' => hcount e' (List.mem_append_left _ he'))
      hruled.of_append hst hc hrank
  · exact atFirstBest_of_ruled hgoverned.shown.located hcount hgoverned.ruled hst hc hrank

/-- Numbers can always be ranked. -/
theorem rankable_costing (costs : List Int) : Rankable (costs.map Bare.costing) := by
  refine ⟨fun s hs => ?_, List.pairwise_map.2 (List.pairwise_of_forall fun m n x y hx hy => ?_)⟩
  · obtain ⟨n, -, rfl⟩ := List.mem_map.1 hs
    refine ⟨.int n, rfl, fun leaf hleaf => ?_⟩
    rw [show leaf = .int n from List.mem_singleton.1 hleaf]
    exact fun h => nomatch h
  · cases hx
    cases hy
    exact ⟨_, rfl⟩

/-- The better neighbour is taken, and the tie is not. -/
theorem current_is_first_best_eager :
    AtFirstBest true ⟨Bare.costing 5, [(Bare.costing 3, true), (Bare.costing 3, false)]⟩
      (LocalSearch.method.view (((do
        Program.calling .start
        Program.calling .step : Program (List Bare) Bare Unit).play LocalSearch.method
          (Solver.serve LocalSearch.method Cast.eager 9)).runOn
            (Machine.listed ([5, 3, 3].map Bare.costing) #[0, 1] Level.info)).2.solver) :=
  (current_is_first_best Cast.eager 9 _ (Machine.fresh_listed _ _ _) (c := .natural) rfl rfl
    (by decide +kernel)).2 _ (by decide +kernel) (.natural fun _ _ _ _ => rfl)
      (rankable_costing [5, 3, 3])

end HillClimb
