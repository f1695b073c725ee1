import HillClimb.Proofs.FirstBest
import HillClimb.Proofs.Strictness
import HillClimb.Value.Conversion

set_option autoImplicit false

/-! # Comparators that go by costs are strict

Costs are of many kinds, and comparing two of them may fail. Where a comparator that goes by costs
says that one solution is better than another, it says no the other way round, and it says yes about
the ends of a chain; it fails at neither (`Comparator.Strict`).

Wherever two costs can be compared, there is a verdict on them. The verdicts are mirror images of
one another, and on costs without `nan` they form a total preorder whose ties are the equal costs
(`Comparator.Preorders`). So the validation is passed wherever all costs can be compared, `nan` or
not. All of this is `cost_comparators_are_strict`. -/

namespace HillClimb

variable {W S : Type}

/-! ## Verdicts on values -/

/-- The verdict on something that lies so to something else, if less is better. -/
def Verdict.ofOrdering : Ordering → Verdict
  | .lt => .better
  | .eq => .equal
  | .gt => .worse

namespace Value

/-- How a value ranks against another: a lower one ranks first, or a higher one. -/
def rank? (minimize : Bool) (x y : Value) : Option Ordering :=
  if minimize then order? x y else order? y x

/-- The relation that says that one value is better than another: `Relation.less` if the lower one
    is. -/
def better (minimize : Bool) : Relation := if minimize then .less else .greater

/-- The verdict of a comparator that goes by costs, given the two costs. -/
def verdict (minimize : Bool) (x y : Value) : Except Failure Verdict := do
  if ← x.relate (better minimize) y then return .better
  if ← y.relate (better minimize) x then return .worse
  return .equal

theorem rank?_swap (minimize : Bool) (x y : Value) :
    rank? minimize y x = (rank? minimize x y).map Ordering.swap := by
  cases minimize with
  | true => exact order?_swap.1 x y
  | false => exact order?_swap.1 y x

/-- Where two values are ranked, it is known whether the first is `better`. -/
theorem relate_of_rank? {minimize : Bool} {x y : Value} {o : Ordering}
    (h : rank? minimize x y = some o) : x.relate (better minimize) y = .ok (o == .lt) := by
  have hread := (relate_readOff (better minimize)).1 x y
  have ho : order? x y = some (if minimize then o else o.swap) := by
    cases minimize with
    | true => exact h
    | false => rw [order?_swap.1 y x, show order? y x = some o from h]; rfl
  rw [ho] at hread
  rw [show x.relate (better minimize) y = _ from hread]
  cases minimize <;> cases o <;> rfl

theorem rank?_of_relate {minimize : Bool} {x y : Value}
    (h : x.relate (better minimize) y = .ok true) : rank? minimize x y = some .lt := by
  have horder := beats_iff.1 h
  cases minimize with
  | true => exact horder
  | false =>
    rw [rank?, if_neg Bool.false_ne_true, order?_swap.1 x y, horder]
    rfl

/-- Where two values are not ranked, neither is better. -/
theorem relate_of_not_rank? {minimize : Bool} {x y : Value} (h : rank? minimize x y = Option.none) :
    x.relate (better minimize) y ≠ .ok true := by
  intro hbetter
  rw [rank?_of_relate hbetter] at h
  cases h

/-- Two values that are ranked get the verdict of their ranks. -/
theorem verdict_of_rank? {minimize : Bool} {x y : Value} {o : Ordering}
    (h : rank? minimize x y = some o) : verdict minimize x y = .ok (.ofOrdering o) := by
  have hswap : rank? minimize y x = some o.swap := by rw [rank?_swap, h]; rfl
  rw [verdict, relate_of_rank? h, relate_of_rank? hswap]
  cases o <;> rfl

/-- Two values that can be compared get the verdict of both answers. -/
theorem verdict_of_relate {minimize : Bool} {x y : Value} {ahead back : Bool}
    (h : x.relate (better minimize) y = .ok ahead) (h' : y.relate (better minimize) x = .ok back) :
    verdict minimize x y
      = .ok (if ahead then .better else if back then .worse else .equal) := by
  rw [verdict, h, h']
  cases ahead <;> cases back <;> rfl

/-- A verdict comes from one answer, or from two. -/
theorem answers_of_verdict {minimize : Bool} {x y : Value} {v : Verdict}
    (hv : verdict minimize x y = .ok v) : ∃ first, x.relate (better minimize) y = .ok first ∧
      (first = false → ∃ second, y.relate (better minimize) x = .ok second ∧
        v = if second then .worse else .equal) := by
  rw [verdict] at hv
  cases hfirst : x.relate (better minimize) y with
  | error cause =>
    rw [hfirst] at hv
    cases hv
  | ok first =>
    refine ⟨first, rfl, ?_⟩
    rintro rfl
    rw [hfirst] at hv
    cases hsecond : y.relate (better minimize) x with
    | error cause =>
      rw [hsecond] at hv
      cases hv
    | ok second =>
      rw [hsecond] at hv
      refine ⟨second, rfl, ?_⟩
      cases second <;> exact (Except.ok.inj hv).symm

/-- Two values that are not ranked tie, unless they cannot be compared. -/
theorem verdict_of_not_rank? {minimize : Bool} {x y : Value} {v : Verdict}
    (h : rank? minimize x y = Option.none) (hv : verdict minimize x y = .ok v) : v = .equal := by
  have hswap : rank? minimize y x = Option.none := by rw [rank?_swap, h]; rfl
  obtain ⟨first, hfirst, hrest⟩ := answers_of_verdict hv
  cases first with
  | true => exact absurd hfirst (relate_of_not_rank? h)
  | false =>
    obtain ⟨second, hsecond, rfl⟩ := hrest rfl
    cases second with
    | true => exact absurd hsecond (relate_of_not_rank? hswap)
    | false => rfl

/-- Exchanging two values turns the verdict around. -/
theorem verdict_swap {minimize : Bool} {x y : Value} {v w : Verdict}
    (hv : verdict minimize x y = .ok v) (hw : verdict minimize y x = .ok w) : w = v.swap := by
  cases hr : rank? minimize x y with
  | none =>
    have hswap : rank? minimize y x = Option.none := by rw [rank?_swap, hr]; rfl
    rw [verdict_of_not_rank? hr hv, verdict_of_not_rank? hswap hw]
    rfl
  | some o =>
    have hswap : rank? minimize y x = some o.swap := by rw [rank?_swap, hr]; rfl
    rw [verdict_of_rank? hr] at hv
    rw [verdict_of_rank? hswap] at hw
    rw [← Except.ok.inj hv, ← Except.ok.inj hw]
    cases o <;> rfl

/-- Values without `nan` that have a verdict are ranked. -/
theorem rank?_of_verdict {minimize : Bool} {x y : Value} {v : Verdict} (hx : NanFree x)
    (hy : NanFree y) (hv : verdict minimize x y = .ok v) :
    ∃ o, rank? minimize x y = some o ∧ v = .ofOrdering o := by
  obtain ⟨answer, hanswer, -⟩ := answers_of_verdict hv
  have hsome : (rank? minimize x y).isSome := by
    have horder := (isSome_order? (better minimize)).1 x y answer hx hy hanswer
    cases minimize with
    | true => exact horder
    | false =>
      rw [rank?_swap false y x, Option.isSome_map]
      exact horder
  obtain ⟨o, ho⟩ := Option.isSome_iff_exists.1 hsome
  rw [verdict_of_rank? ho] at hv
  exact ⟨o, ho, (Except.ok.inj hv).symm⟩

/-- Equal values are those that rank alike. -/
theorem rank?_eq_iff {minimize : Bool} {x y : Value} {o : Ordering}
    (h : rank? minimize x y = some o) : o = .eq ↔ x.equal y = true := by
  cases minimize with
  | true =>
    constructor
    · rintro rfl
      exact equal_of_eq.1 x y h
    · exact fun hxy => eq_of_equal.1 x y hxy o h
  | false =>
    rw [equal_comm x y]
    constructor
    · rintro rfl
      exact equal_of_eq.1 y x h
    · exact fun hyx => eq_of_equal.1 y x hyx o h

/-- Ranks that go down nowhere add up. -/
theorem order?_then {x y z : Value} {o p : Ordering} (hxy : order? x y = some o)
    (hyz : order? y z = some p) (ho : o ≠ .gt) (hp : p ≠ .gt) :
    order? x z = some (o.then p) := by
  -- A tie hands the other rank on, since equal values rank alike against all others.
  cases o with
  | gt => exact absurd rfl ho
  | eq => rw [(congr_of_equal.1 x y (equal_of_eq.1 x y hxy) z).2, hyz]; rfl
  | lt =>
    cases p with
    | gt => exact absurd rfl hp
    | eq => rw [← (congr_right (equal_of_eq.1 y z hyz) x).2, hxy]; rfl
    | lt => exact order?_trans.1 x y z hxy hyz

theorem rank?_then {minimize : Bool} {x y z : Value} {o p : Ordering}
    (hxy : rank? minimize x y = some o) (hyz : rank? minimize y z = some p) (ho : o ≠ .gt)
    (hp : p ≠ .gt) : rank? minimize x z = some (o.then p) := by
  cases minimize with
  | true => exact order?_then hxy hyz ho hp
  | false =>
    have hzx : order? z x = some (p.then o) := order?_then hyz hxy hp ho
    rw [rank?, if_neg Bool.false_ne_true, hzx]
    cases o <;> cases p <;> first | rfl | exact absurd rfl ho | exact absurd rfl hp

/-- Values with positions can always be compared. -/
theorem relate_of_magnitude (r : Relation) {x y : Value} {a b : Magnitude}
    (hx : x.magnitude? = some a) (hy : y.magnitude? = some b) :
    ∃ answer, x.relate r y = .ok answer := by
  have hrelate : x.relate r y = relateAtoms r x y := by
    cases x <;> cases y <;> first | rfl | cases hx
  rw [hrelate, relateAtoms, hx, hy]
  dsimp only
  cases a.order? b with
  | none => exact ⟨_, rfl⟩
  | some o => exact ⟨_, rfl⟩

/-- Outcomes of the four relations, one way round and the other: either there are answers in all of
    them, or the former fail because of the same two kinds. -/
def AllOrNone (ahead back : Relation → Except Failure Bool) : Prop :=
  (∀ r, ∃ answer answer', ahead r = .ok answer ∧ back r = .ok answer') ∨
    ∃ k l, ∀ r, ahead r = .error (.unordered r k l)

/-- Whether two values can be compared depends neither on which relation is asked for nor on which
    value comes first. -/
theorem relate_allOrNone :
    (∀ x y, AllOrNone (fun r => relate r x y) fun r => relate r y x) ∧
      ∀ xs ys, AllOrNone (fun r => relateAll r xs ys) fun r => relateAll r ys xs := by
  apply pairInduction
  case tuples =>
    intro xs ys ih
    simpa only [relate] using ih
  case texts => exact fun s t => .inl fun r => ⟨_, _, rfl, rfl⟩
  case atoms =>
    intro x y hxy
    cases hx : x.magnitude? with
    | none => exact .inr ⟨x.kind, y.kind, fun r => (hxy.relate r).trans (by rw [relateAtoms, hx])⟩
    | some a =>
      cases hy : y.magnitude? with
      | none =>
        exact .inr ⟨x.kind, y.kind, fun r => (hxy.relate r).trans (by rw [relateAtoms, hx, hy])⟩
      | some b =>
        refine .inl fun r => ?_
        obtain ⟨answer, h⟩ := relate_of_magnitude r hx hy
        obtain ⟨answer', h'⟩ := relate_of_magnitude r hy hx
        exact ⟨answer, answer', h, h'⟩
  case same =>
    intro x xs y ys hxy ih
    simpa only [relateAll, equal_comm y x, if_pos hxy] using ih
  case differ =>
    intro x xs y ys hxy ih
    simpa only [relateAll, equal_comm y x, hxy, Bool.false_eq_true, if_false] using ih
  case nils => exact .inl fun r => ⟨_, _, rfl, rfl⟩
  case shorter => exact fun y ys => .inl fun r => ⟨_, _, rfl, rfl⟩
  case longer => exact fun x xs => .inl fun r => ⟨_, _, rfl, rfl⟩

/-- Two values that can be compared can be compared in every way. -/
theorem relate_isOk {r : Relation} {x y : Value} {answer : Bool} (h : relate r x y = .ok answer)
    (r' : Relation) :
    ∃ ahead back, relate r' x y = .ok ahead ∧ relate r' y x = .ok back := by
  rcases relate_allOrNone.1 x y with hall | ⟨k, l, hnone⟩
  · exact hall r'
  · exact absurd (h.symm.trans (hnone r)) (by simp)

/-- Two values that cannot be compared fail because of the same two kinds whatever is asked. -/
theorem relate_isError {r : Relation} {x y : Value} {cause : Failure}
    (h : relate r x y = .error cause) :
    ∃ k l, ∀ r', relate r' x y = .error (.unordered r' k l) := by
  rcases relate_allOrNone.1 x y with hall | hnone
  · obtain ⟨answer, -, hanswer, -⟩ := hall r
    exact absurd (h.symm.trans hanswer) (by simp)
  · exact hnone

end Value

/-! ## Verdicts on solutions -/

/-- At some `HookState` the hook gives the answer. -/
def Hook.CanGive {α : Type} (h : Hook W S α) (a : α) : Prop := ∃ state, (h.runAt state).1 = .ok a

variable [Candidate S]

theorem Hook.run_relateCosts {a b : S} {x y : Value} (hx : Candidate.costs a = .ok x)
    (hy : Candidate.costs b = .ok y) (r : Relation) (state : HookState W S) :
    ((Hook.relateCosts r a b).runAt state).1 = x.relate r y := by
  simp only [Hook.relateCosts, Hook.run_bind, Hook.run_costs, hx, hy, Hook.run_ofExcept]

namespace Comparator.ByCosts

variable {c : Comparator W S} {minimize : Bool} {sols : List S} {a b : S} {x y : Value}

/-- A comparator that goes by costs answers what the relation of the costs is. -/
theorem run_isBetter (hc : c.ByCosts sols minimize) (ha : a ∈ sols) (hb : b ∈ sols)
    (hx : Candidate.costs a = .ok x) (hy : Candidate.costs b = .ok y) (state : HookState W S) :
    ((c.isBetter a b).runAt state).1 = x.relate (Value.better minimize) y := by
  cases hc with
  | natural hpreference =>
    simp only [isBetter, Hook.prefers, Hook.run_bind, Hook.run_ask, hpreference a ha b hb]
    exact Hook.run_relateCosts hx hy .less _
  | cost minimize => exact Hook.run_relateCosts hx hy _ state

/-- A comparator that goes by costs gives the verdict of the costs. -/
theorem run_compare (hc : c.ByCosts sols minimize) (ha : a ∈ sols) (hb : b ∈ sols)
    (hx : Candidate.costs a = .ok x) (hy : Candidate.costs b = .ok y) (state : HookState W S) :
    ((c.compare a b).runAt state).1 = Value.verdict minimize x y := by
  have hab := hc.run_isBetter ha hb hx hy state
  rw [compare, Hook.run_bind, Value.verdict]
  rcases hfirst : (c.isBetter a b).runAt state with ⟨first, state'⟩
  rw [hfirst] at hab
  obtain rfl : first = _ := hab
  cases x.relate (Value.better minimize) y with
  | error cause => rfl
  | ok answer =>
    cases answer with
    | true => rfl
    | false =>
      -- The second question is put on what the first one has left of the state.
      have hba := hc.run_isBetter hb ha hy hx state'
      show (((do
        if ← c.isBetter b a then return Verdict.worse
        return Verdict.equal : Hook W S Verdict)).runAt state').1 = _
      rw [Hook.run_bind]
      rcases hsecond : (c.isBetter b a).runAt state' with ⟨second, state''⟩
      rw [hsecond] at hba
      obtain rfl : second = _ := hba
      rcases y.relate (Value.better minimize) x with cause | _ | _ <;> rfl

end Comparator.ByCosts

namespace Comparator

/-- What `isBetter` says is better is never better the other way round, and stays better along
    chains. Where it said yes, it does not fail. -/
structure Strict (c : Comparator W S) (sols : List S) : Prop where
  irrefl : ∀ a ∈ sols, ¬ (c.isBetter a a).CanGive true
  asymm : ∀ a ∈ sols, ∀ b ∈ sols, (c.isBetter a b).CanGive true → (c.isBetter b a).Gives false
  trans : ∀ a ∈ sols, ∀ b ∈ sols, ∀ d ∈ sols, (c.isBetter a b).CanGive true →
    (c.isBetter b d).CanGive true → (c.isBetter a d).Gives true

/-- The cost of the solution is known and has no `nan` in it. -/
def Plain (a : S) : Prop := ∃ x, Candidate.costs a = .ok x ∧ x.NanFree

/-- Where two costs can be compared, `compare` gives a verdict both ways round, which is for the
    better where `isBetter` says so. The verdicts turn around when two solutions are exchanged. On
    solutions without `nan` they tie where the costs are equal, and they are transitive. -/
structure Preorders (c : Comparator W S) (sols : List S) : Prop where
  total : ∀ a ∈ sols, ∀ b ∈ sols, ∀ x y, Candidate.costs a = .ok x → Candidate.costs b = .ok y →
    (∃ lower, x.relate .less y = .ok lower) →
      ∃ v, (c.compare a b).Gives v ∧ (c.compare b a).Gives v.swap ∧
        (c.isBetter a b).Gives (v == .better) ∧
        (x.NanFree → y.NanFree → (v = .equal ↔ x.equal y = true))
  swap : ∀ a ∈ sols, ∀ b ∈ sols, ∀ v w, (c.compare a b).CanGive v → (c.compare b a).CanGive w →
    w = v.swap
  equal_iff : ∀ a ∈ sols, ∀ b ∈ sols, ∀ x y, Candidate.costs a = .ok x → Candidate.costs b = .ok y →
    x.NanFree → y.NanFree → ∀ v, (c.compare a b).CanGive v → (v = .equal ↔ x.equal y = true)
  equal_trans : ∀ a ∈ sols, ∀ b ∈ sols, ∀ d ∈ sols, Plain a → Plain b → Plain d →
    (c.compare a b).CanGive .equal → (c.compare b d).CanGive .equal → (c.compare a d).Gives .equal
  trans : ∀ a ∈ sols, ∀ b ∈ sols, ∀ d ∈ sols, Plain a → Plain b → Plain d → ∀ v w,
    (c.compare a b).CanGive v → (c.compare b d).CanGive w → v ≠ .worse → w ≠ .worse →
      ∃ u, (c.compare a d).Gives u ∧ u ≠ .worse

namespace ByCosts

variable {c : Comparator W S} {minimize : Bool} {sols : List S}

theorem rank?_of_canGive (hc : c.ByCosts sols minimize) {a b : S} (ha : a ∈ sols) (hb : b ∈ sols)
    {x y : Value} (hx : Candidate.costs a = .ok x) (hy : Candidate.costs b = .ok y)
    (h : (c.isBetter a b).CanGive true) : x.rank? minimize y = some .lt := by
  obtain ⟨state, hstate⟩ := h
  rw [hc.run_isBetter ha hb hx hy] at hstate
  exact Value.rank?_of_relate hstate

theorem strict (hc : c.ByCosts sols minimize)
    (hknown : ∀ s ∈ sols, ∃ v, Candidate.costs s = .ok v) : c.Strict sols := by
  refine ⟨fun a ha h => ?_, fun a ha b hb h state => ?_, fun a ha b hb d hd h h' state => ?_⟩
  · obtain ⟨x, hx⟩ := hknown a ha
    have hrank := hc.rank?_of_canGive ha ha hx hx h
    have hswap := Value.rank?_swap minimize x x
    rw [hrank] at hswap
    cases hswap
  · obtain ⟨x, hx⟩ := hknown a ha
    obtain ⟨y, hy⟩ := hknown b hb
    have hrank := hc.rank?_of_canGive ha hb hx hy h
    have hswap : y.rank? minimize x = some .gt := by
      rw [Value.rank?_swap, hrank]
      rfl
    rw [hc.run_isBetter hb ha hy hx, Value.relate_of_rank? hswap]
    rfl
  · obtain ⟨x, hx⟩ := hknown a ha
    obtain ⟨y, hy⟩ := hknown b hb
    obtain ⟨z, hz⟩ := hknown d hd
    have hxz := Value.rank?_then (hc.rank?_of_canGive ha hb hx hy h)
      (hc.rank?_of_canGive hb hd hy hz h') (by decide) (by decide)
    rw [hc.run_isBetter ha hd hx hz, Value.relate_of_rank? hxz]
    rfl

/-- Solutions without `nan` that have a verdict are ranked. -/
theorem rank?_of_compare (hc : c.ByCosts sols minimize) {a b : S} (ha : a ∈ sols) (hb : b ∈ sols)
    {x y : Value} (hx : Candidate.costs a = .ok x) (hy : Candidate.costs b = .ok y)
    (hnx : x.NanFree) (hny : y.NanFree) {v : Verdict} (h : (c.compare a b).CanGive v) :
    ∃ o, x.rank? minimize y = some o ∧ v = .ofOrdering o := by
  obtain ⟨state, hstate⟩ := h
  rw [hc.run_compare ha hb hx hy] at hstate
  exact Value.rank?_of_verdict hnx hny hstate

/-- Verdicts that are not for the worse add up. -/
theorem gives_compare (hc : c.ByCosts sols minimize) {a b d : S} (ha : a ∈ sols) (hb : b ∈ sols)
    (hd : d ∈ sols) (hpa : Plain a) (hpb : Plain b) (hpd : Plain d) {v w : Verdict}
    (h : (c.compare a b).CanGive v) (h' : (c.compare b d).CanGive w) (hv : v ≠ .worse)
    (hw : w ≠ .worse) :
    ∃ o p, v = .ofOrdering o ∧ w = .ofOrdering p ∧ o ≠ .gt ∧ p ≠ .gt ∧
      (c.compare a d).Gives (.ofOrdering (o.then p)) := by
  obtain ⟨x, hx, hnx⟩ := hpa
  obtain ⟨y, hy, hny⟩ := hpb
  obtain ⟨z, hz, hnz⟩ := hpd
  obtain ⟨o, hxy, rfl⟩ := hc.rank?_of_compare ha hb hx hy hnx hny h
  obtain ⟨p, hyz, rfl⟩ := hc.rank?_of_compare hb hd hy hz hny hnz h'
  have ho : o ≠ .gt := by
    rintro rfl
    exact hv rfl
  have hp : p ≠ .gt := by
    rintro rfl
    exact hw rfl
  refine ⟨o, p, rfl, rfl, ho, hp, fun state => ?_⟩
  rw [hc.run_compare ha hd hx hz, Value.verdict_of_rank? (Value.rank?_then hxy hyz ho hp)]

theorem preorders (hc : c.ByCosts sols minimize)
    (hknown : ∀ s ∈ sols, ∃ v, Candidate.costs s = .ok v) : c.Preorders sols := by
  refine ⟨?_, ?_, ?_, ?_, ?_⟩
  · rintro a ha b hb x y hx hy ⟨lower, hlower⟩
    obtain ⟨ahead, back, hahead, hback⟩ := Value.relate_isOk hlower (Value.better minimize)
    have hv := Value.verdict_of_relate hahead hback
    have hw := Value.verdict_of_relate hback hahead
    refine ⟨_, fun state => (hc.run_compare ha hb hx hy state).trans hv, fun state => ?_,
      fun state => ?_, fun hnx hny => ?_⟩
    · rw [hc.run_compare hb ha hy hx, hw, Value.verdict_swap hv hw]
    · rw [hc.run_isBetter ha hb hx hy, hahead]
      cases ahead <;> cases back <;> rfl
    · obtain ⟨o, ho, hvo⟩ := Value.rank?_of_verdict hnx hny hv
      rw [hvo, ← Value.rank?_eq_iff ho]
      cases o <;> decide
  · rintro a ha b hb v w ⟨state, hv⟩ ⟨state', hw⟩
    obtain ⟨x, hx⟩ := hknown a ha
    obtain ⟨y, hy⟩ := hknown b hb
    rw [hc.run_compare ha hb hx hy] at hv
    rw [hc.run_compare hb ha hy hx] at hw
    exact Value.verdict_swap hv hw
  · intro a ha b hb x y hx hy hnx hny v hv
    obtain ⟨o, ho, rfl⟩ := hc.rank?_of_compare ha hb hx hy hnx hny hv
    rw [← Value.rank?_eq_iff ho]
    cases o <;> decide
  · intro a ha b hb d hd hpa hpb hpd h h'
    obtain ⟨o, p, ho, hp, -, -, hgives⟩ :=
      hc.gives_compare ha hb hd hpa hpb hpd h h' (by decide) (by decide)
    obtain rfl : o = .eq := by cases o <;> first | rfl | cases ho
    obtain rfl : p = .eq := by cases p <;> first | rfl | cases hp
    exact hgives
  · intro a ha b hb d hd hpa hpb hpd v w h h' hv hw
    obtain ⟨o, p, -, -, ho, hp, hgives⟩ := hc.gives_compare ha hb hd hpa hpb hpd h h' hv hw
    refine ⟨_, hgives, ?_⟩
    cases o <;> cases p <;> first | decide | exact absurd rfl ho | exact absurd rfl hp

/-- Where all costs can be compared, the comparator says which solution beats which. -/
theorem answers (hc : c.ByCosts sols minimize)
    (hknown : ∀ s ∈ sols, ∃ v, Candidate.costs s = .ok v)
    (hcompared : ∀ a ∈ sols, ∀ b ∈ sols, ∀ x y, Candidate.costs a = .ok x →
      Candidate.costs b = .ok y → ∃ lower, x.relate .less y = .ok lower)
    {R : S → S → Bool} (hR : ∀ a b, R a b ↔ Beats minimize a b) : c.Answers (· ∈ sols) R := by
  intro a b ha hb state
  obtain ⟨x, hx⟩ := hknown a ha
  obtain ⟨y, hy⟩ := hknown b hb
  obtain ⟨lower, hlower⟩ := hcompared a ha b hb x y hx hy
  obtain ⟨answer, -, hanswer, -⟩ := Value.relate_isOk hlower (Value.better minimize)
  have hrun := (hc.run_isBetter ha hb hx hy state).trans hanswer
  rw [hrun, Bool.eq_iff_iff.2 ((hc.beats_of_isBetter ha hb hrun).trans (hR a b).symm)]

/-- Where all costs can be compared, `violation?` finds no violation. -/
theorem gives_violation? (hc : c.ByCosts sols minimize)
    (hknown : ∀ s ∈ sols, ∃ v, Candidate.costs s = .ok v)
    (hcompared : ∀ a ∈ sols, ∀ b ∈ sols, ∀ x y, Candidate.costs a = .ok x →
      Candidate.costs b = .ok y → ∃ lower, x.relate .less y = .ok lower) :
    (c.violation? sols).Gives none := by
  classical
  have hanswers := hc.answers hknown hcompared (R := fun a b => decide (Beats minimize a b))
    fun a b => decide_eq_true_iff
  have hstrict : StrictOn (· ∈ sols) fun a b : S => decide (Beats minimize a b) := by
    refine ⟨fun a _ h => ?_, fun a b _ _ h => ?_, fun a b d _ _ _ h h' => ?_⟩
    · exact beats_irrefl minimize a (of_decide_eq_true h)
    · exact beats_irrefl minimize a
        (Beats.trans (of_decide_eq_true h.1) (of_decide_eq_true h.2))
    · exact decide_eq_true (Beats.trans (of_decide_eq_true h) (of_decide_eq_true h'))
  have hnone := Option.isNone_iff_eq_none.1 (Violation.first?_isNone.2 hstrict)
  rw [← hnone]
  exact hanswers.gives_violation?

end ByCosts

end Comparator

/-- A comparator that goes by costs is `Strict` on all solutions whose costs are known, whatever
    kinds of costs they are; it gives a verdict on any two whose costs can be compared; its verdicts
    form a total preorder on those without `nan` (`Preorders`); and it passes its validation
    wherever all costs can be compared. -/
theorem cost_comparators_are_strict {c : Comparator W S} {minimize : Bool} {sols : List S}
    (hc : c.ByCosts sols minimize) (hknown : ∀ s ∈ sols, ∃ v, Candidate.costs s = .ok v) :
    c.Strict sols ∧ c.Preorders sols ∧
      ((∀ a ∈ sols, ∀ b ∈ sols, ∀ x y, Candidate.costs a = .ok x → Candidate.costs b = .ok y →
        ∃ lower, x.relate .less y = .ok lower) → (c.violation? sols).Gives none) :=
  ⟨hc.strict hknown, hc.preorders hknown, hc.gives_violation? hknown⟩

/-! ## Solutions of any cost -/

/-- A solution that is nothing but its cost. -/
structure Priced where
  cost : Value

instance : Candidate Priced where
  costs s := .ok s.cost
  text s := s.cost.toText?.getD ""
  preference _ _ := .lowerCost

/-- An integer, the floating-point number just below it, a truth value and `nan`. -/
theorem cost_comparators_are_strict_mixed :
    let whole : Priced := ⟨.int 9007199254740993⟩
    let rounded : Priced := ⟨.real (.finite false 4503599627370496 1075)⟩
    let sols : List Priced := [whole, rounded, ⟨.bool true⟩, ⟨.real .nan⟩]
    ((Comparator.cost false : Comparator Unit Priced).isBetter rounded whole).Gives false ∧
      ((Comparator.natural : Comparator Unit Priced).violation? sols).Gives none := by
  intro whole rounded sols
  have hknown : ∀ s ∈ sols, ∃ v, Candidate.costs s = .ok v := fun s _ => ⟨s.cost, rfl⟩
  have hnumbers : ∀ s ∈ sols, ∃ a, s.cost.magnitude? = some a := by
    simp [sols, whole, rounded, Value.magnitude?]
  have hhigher := cost_comparators_are_strict (W := Unit) (.cost false) hknown
  have hnatural := cost_comparators_are_strict (W := Unit)
    (.natural fun _ _ _ _ => rfl : Comparator.natural.ByCosts sols true) hknown
  refine ⟨hhigher.1.asymm whole (by simp [sols]) rounded (by simp [sols]) ⟨⟨(), #[], #[]⟩, ?_⟩,
    hnatural.2.2 fun a ha b hb x y hx hy => ?_⟩
  · decide +kernel
  · obtain ⟨m, hm⟩ := hnumbers a ha
    obtain ⟨n, hn⟩ := hnumbers b hb
    obtain rfl := Except.ok.inj hx
    obtain rfl := Except.ok.inj hy
    exact Value.relate_of_magnitude .less hm hn

end HillClimb
