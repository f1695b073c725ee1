import HillClimb.Proofs.CostOrder

set_option autoImplicit false

/-! # Comparators that go by costs agree

A solution that judges itself by its cost, a comparator that looks for lower costs and one that
looks for higher costs all go by the same order. The first two cannot be told apart: they come to
the same outcome, or fail for the same reason, and ask for the same costs in the same order
(`Hook.CostAlike`). The third gives the opposite verdicts and fails on the same pairs
(`Value.verdict_mirrored`), naming the relation that it asked for. The result is
`comparators_by_costs_agree`. -/

namespace HillClimb

variable {W S α β : Type}

/-! ## Values seen in the two directions -/

namespace Value

/-- What is less is exceeded. -/
theorem relate_greater {x y : Value} {answer : Bool} (h : relate .less x y = .ok answer) :
    relate .greater y x = .ok answer := by
  obtain ⟨-, answer', -, h'⟩ := relate_isOk h .greater
  have hless := (relate_readOff .less).1 x y
  have hgreater := (relate_readOff .greater).1 y x
  rw [order?_swap.1 x y] at hgreater
  cases ho : order? x y with
  | some o =>
    rw [ho] at hless hgreater
    obtain rfl := Except.ok.inj (h.symm.trans hless)
    rw [show relate .greater y x = _ from hgreater]
    cases o <;> rfl
  | none =>
    -- Values that can be compared without being in order are not less, and do not exceed.
    rw [ho] at hless hgreater
    obtain rfl : answer = false := Bool.eq_false_iff.2 fun htrue => hless (htrue ▸ h)
    obtain rfl : answer' = false := Bool.eq_false_iff.2 fun htrue => hgreater (htrue ▸ h')
    exact h'

/-- A verdict is that of the two answers. -/
theorem verdict_of_answers {minimize first second : Bool} {x y : Value}
    (h : x.relate (better minimize) y = .ok first)
    (h' : y.relate (better minimize) x = .ok second) :
    verdict minimize x y = .ok (if first then .better else if second then .worse else .equal) := by
  rw [verdict, h, h']
  cases first <;> cases second <;> rfl

/-- Looking for higher values gives the opposite `verdict` to looking for lower ones, which is also
    that of the two values exchanged; or both fail, on the same kinds of values. -/
theorem verdict_mirrored (x y : Value) :
    (∃ v, verdict true x y = .ok v ∧ verdict false x y = .ok v.swap ∧
      verdict true y x = .ok v.swap) ∨
    ∃ k l, verdict true x y = .error (.unordered .less k l) ∧
      verdict false x y = .error (.unordered .greater k l) := by
  cases hless : relate .less x y with
  | error cause =>
    obtain ⟨k, l, hfailed⟩ := relate_isError hless
    refine .inr ⟨k, l, ?_, ?_⟩
    · rw [verdict, show x.relate (better true) y = _ from hfailed .less]
      rfl
    · rw [verdict, show x.relate (better false) y = _ from hfailed .greater]
      rfl
  | ok lower =>
    obtain ⟨-, higher, -, hswap⟩ := relate_isOk hless .less
    have hxy : verdict true x y = _ := verdict_of_answers hless hswap
    have hyx : verdict true y x = _ := verdict_of_answers hswap hless
    have hmirror : verdict false x y = _ :=
      verdict_of_answers (relate_greater hswap) (relate_greater hless)
    have hopposite := verdict_swap hxy hyx
    exact .inl ⟨_, hxy, hmirror.trans (congrArg _ hopposite), hyx.trans (congrArg _ hopposite)⟩

end Value

/-! ## Hooks that ask for the same costs -/

/-- The solutions whose costs were asked for at the state, in order: its `Probe.costs`. -/
def HookState.costed (state : HookState W S) : List S :=
  state.probes.toList.filterMap fun
    | .costs s => some s
    | _ => none

/-- The states differ at most in the judgements that were asked for, the `Probe.better` ones. -/
structure HookState.CostAlike (state state' : HookState W S) : Prop where
  world : state.world = state'.world
  generators : state.generators = state'.generators
  costed : state.costed = state'.costed

/-- The hooks come to the same outcome, and ask for the same costs in the same order. -/
def Hook.CostAlike (h h' : Hook W S α) : Prop :=
  ∀ state state' : HookState W S, state.CostAlike state' →
    (h.runAt state).1 = (h'.runAt state').1 ∧ (h.runAt state).2.CostAlike (h'.runAt state').2

namespace Hook.CostAlike

theorem pure (a : α) : CostAlike (W := W) (S := S) (pure a) (pure a) :=
  fun _ _ hstate => ⟨rfl, hstate⟩

theorem ofExcept (result : Except Failure α) :
    CostAlike (W := W) (S := S) (ofExcept result) (ofExcept result) :=
  fun _ _ hstate => ⟨rfl, hstate⟩

theorem bind {h h' : Hook W S α} {f f' : α → Hook W S β} (hh : h.CostAlike h')
    (hf : ∀ a, (f a).CostAlike (f' a)) : (h >>= f).CostAlike (h' >>= f') := by
  intro state state' hstate
  have halike := hh state state' hstate
  rw [run_bind, run_bind]
  rcases hrun : h.runAt state with ⟨outcome, left⟩
  rcases hrun' : h'.runAt state' with ⟨outcome', left'⟩
  rw [hrun, hrun'] at halike
  obtain ⟨rfl, hleft⟩ := halike
  cases outcome with
  | error cause => exact ⟨rfl, hleft⟩
  | ok a => exact hf a left left' hleft

variable [Candidate S]

theorem costs (s : S) : CostAlike (W := W) (Hook.costs s) (Hook.costs s) := by
  intro state state' hstate
  refine ⟨rfl, hstate.world, hstate.generators, ?_⟩
  simp only [run_costs, HookState.costed, Array.toList_push, List.filterMap_append]
  exact congrArg (· ++ _) hstate.costed

theorem relateCosts (r : Relation) (a b : S) :
    CostAlike (W := W) (Hook.relateCosts r a b) (Hook.relateCosts r a b) :=
  (costs a).bind fun _ => (costs b).bind fun _ => ofExcept _

/-- A solution that judges itself by its cost, with `Preference.lowerCost`, asks for the costs that
    are compared. -/
theorem prefers {a b : S} (h : Candidate.preference a b = .lowerCost) :
    CostAlike (W := W) (Hook.prefers a b) (Hook.relateCosts .less a b) := by
  intro state state' hstate
  rw [Hook.prefers, run_bind, run_ask, h]
  refine relateCosts .less a b _ _ ⟨hstate.world, hstate.generators, ?_⟩
  simp only [HookState.costed, Array.toList_push, List.filterMap_append]
  exact (List.append_nil _).trans hstate.costed

end Hook.CostAlike

/-! ## Verdicts -/

section

variable [Candidate S] {a b : S}

namespace Comparator

theorem natural_alike_isBetter (h : Candidate.preference a b = .lowerCost) :
    (natural.isBetter a b : Hook W S Bool).CostAlike ((cost true).isBetter a b) :=
  Hook.CostAlike.prefers h

theorem natural_alike_compare (hab : Candidate.preference a b = .lowerCost)
    (hba : Candidate.preference b a = .lowerCost) :
    (natural.compare a b : Hook W S Verdict).CostAlike ((cost true).compare a b) := by
  refine (natural_alike_isBetter hab).bind fun first => ?_
  cases first with
  | true => exact .pure _
  | false =>
    refine (natural_alike_isBetter hba).bind fun second => ?_
    cases second <;> exact .pure _

/-- Two costs are known, or one of them is the first that is not. -/
theorem known_or_unknown (a b : S) :
    (∃ x y, Candidate.costs a = .ok x ∧ Candidate.costs b = .ok y) ∨
    ∃ cause, Candidate.costs a = .error cause ∨
      (∃ x, Candidate.costs a = .ok x) ∧ Candidate.costs b = .error cause := by
  rcases ha : Candidate.costs a with cause | x
  · exact .inr ⟨cause, .inl rfl⟩
  · rcases hb : Candidate.costs b with cause | y
    · exact .inr ⟨cause, .inr ⟨⟨x, rfl⟩, rfl⟩⟩
    · exact .inl ⟨x, y, rfl, rfl⟩

/-- Known costs are compared. -/
theorem run_compare_known {x y : Value} (minimize : Bool) (hx : Candidate.costs a = .ok x)
    (hy : Candidate.costs b = .ok y) (state : HookState W S) :
    (((cost minimize).compare a b).runAt state).1 = x.verdict minimize y := by
  have hcosts : (cost minimize : Comparator W S).ByCosts [a, b] minimize := .cost minimize
  exact hcosts.run_compare (by simp) (by simp) hx hy state

/-- A cost that is not known leaves no verdict. -/
theorem run_compare_unknown {cause : Failure} (minimize : Bool)
    (h : Candidate.costs a = .error cause ∨
      (∃ x, Candidate.costs a = .ok x) ∧ Candidate.costs b = .error cause) (state : HookState W S) :
    (((cost minimize).compare a b).runAt state).1 = .error cause := by
  simp only [compare, isBetter, Hook.relateCosts, Hook.run_bind, Hook.run_costs]
  rcases h with ha | ⟨⟨x, hx⟩, hb⟩
  · rw [ha]
  · rw [hx]
    simp only [hb]

end Comparator

/-- Three ways of going by costs agree on two solutions that judge themselves by their costs.
    `Comparator.natural` and `Comparator.cost true` come to the same outcome and ask for the same
    costs. Looking for higher costs, as `Comparator.cost false` does, turns the verdict around, as
    exchanging the solutions does. Where there is no verdict both directions fail: for the same
    reason if a cost is not known, and else because costs of these kinds have no order, the one that
    each asks for. -/
theorem comparators_by_costs_agree (hab : Candidate.preference a b = .lowerCost)
    (hba : Candidate.preference b a = .lowerCost) :
    (Comparator.natural.isBetter a b : Hook W S Bool).CostAlike
      ((Comparator.cost true).isBetter a b) ∧
    (Comparator.natural.compare a b : Hook W S Verdict).CostAlike
      ((Comparator.cost true).compare a b) ∧
    ∀ state state' state'' : HookState W S,
      let lower := (((Comparator.cost true).compare a b).runAt state).1
      let higher := (((Comparator.cost false).compare a b).runAt state').1
      let exchanged := (((Comparator.cost true).compare b a).runAt state'').1
      match lower with
      | .ok v => higher = .ok v.swap ∧ exchanged = .ok v.swap
      | .error cause =>
        ((Candidate.costs a = .error cause ∨
          (∃ x, Candidate.costs a = .ok x) ∧ Candidate.costs b = .error cause) ∧
            higher = .error cause) ∨
        ∃ k l, cause = .unordered .less k l ∧ higher = .error (.unordered .greater k l) := by
  refine ⟨Comparator.natural_alike_isBetter hab, Comparator.natural_alike_compare hab hba,
    fun state state' state'' => ?_⟩
  intro lower higher exchanged
  rcases Comparator.known_or_unknown a b with ⟨x, y, hx, hy⟩ | ⟨cause, hcause⟩
  case inr =>
    have hlower : lower = .error cause := Comparator.run_compare_unknown true hcause state
    rw [hlower]
    exact .inl ⟨hcause, Comparator.run_compare_unknown false hcause state'⟩
  case inl =>
    have hlower : lower = x.verdict true y := Comparator.run_compare_known true hx hy state
    have hhigher : higher = x.verdict false y := Comparator.run_compare_known false hx hy state'
    have hexchanged : exchanged = y.verdict true x :=
      Comparator.run_compare_known true hy hx state''
    rcases Value.verdict_mirrored x y with ⟨v, hv, hmirror, hswap⟩ | ⟨k, l, hless, hgreater⟩
    · rw [hlower, hhigher, hexchanged, hv]
      exact ⟨hmirror, hswap⟩
    · rw [hlower, hhigher, hless]
      exact .inr ⟨k, l, rfl, hgreater⟩

end

/-- An integer against the floating-point number just below it, inside tuples that begin alike;
    `nan` against a number; and a number against nothing. -/
theorem comparators_by_costs_agree_mixed :
    let verdict (minimize : Bool) (x y : Value) :=
      (((Comparator.cost minimize : Comparator Unit Priced).compare ⟨x⟩ ⟨y⟩).runAt
        ⟨(), #[], #[]⟩).1
    let whole := Value.tuple [.bool true, .int 9007199254740993]
    let rounded := Value.tuple [.int 1, .real (.finite false 4503599627370496 1075)]
    verdict false whole rounded = .ok .better ∧
      verdict false (.real .nan) (.int 0) = .ok .equal ∧
      verdict false (.int 0) .none = .error (.unordered .greater .int .none) := by
  intro verdict whole rounded
  have hagree (x y : Value) := (comparators_by_costs_agree (W := Unit) (a := (⟨x⟩ : Priced))
    (b := ⟨y⟩) rfl rfl).2.2 ⟨(), #[], #[]⟩ ⟨(), #[], #[]⟩ ⟨(), #[], #[]⟩
  have hswap (x y : Value) (v : Verdict) (h : verdict true x y = .ok v) :
      verdict false x y = .ok v.swap := by
    have hboth := hagree x y
    rw [show (((Comparator.cost true : Comparator Unit Priced).compare ⟨x⟩ ⟨y⟩).runAt _).1 = _
      from h] at hboth
    exact hboth.1
  refine ⟨hswap whole rounded .worse (by decide +kernel),
    hswap (.real .nan) (.int 0) .equal (by decide +kernel), ?_⟩
  rcases hagree (.int 0) .none with ⟨hcost | ⟨-, hcost⟩, -⟩ | ⟨k, l, hcause, hhigher⟩
  · cases hcost
  · cases hcost
  · cases hcause
    exact hhigher

end HillClimb
