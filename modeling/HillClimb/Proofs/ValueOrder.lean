import HillClimb.Value.Operations
import HillClimb.Value.Shape
import Mathlib.Data.String.Basic

set_option autoImplicit false

/-! # Values in order

The four relations between values are read off one order: `Value.order?` tells how two values lie to
one another, if they do (`relate_readOff`). Without having to know more than that two values are in
order, the order turns around when the two are exchanged (`order?_swap`), it is transitive
(`order?_trans`, `order?_cotrans`), and equal values take each other's place (`congr_of_equal`).

A value without `nan` in it (`NanFree`) is in order with every value that it can be compared with
(`isSome_order?`). -/

namespace HillClimb

/-! ## Positions -/

namespace Magnitude

theorem order?_swap (a b : Magnitude) : b.order? a = (a.order? b).map Ordering.swap := by
  cases a <;> cases b <;> simp [order?, Int.compare_swap]

theorem eq_of_order? {a b : Magnitude} (h : a.order? b = some .eq) : a = b := by
  cases a <;> cases b <;> simp_all [order?]

theorem eq_of_same {a b : Magnitude} (h : a.same b) : a = b := by
  rw [same, beq_iff_eq] at h
  exact eq_of_order? h

theorem order?_trans {a b c : Magnitude} (h : a.order? b = some .lt) (h' : b.order? c = some .lt) :
    a.order? c = some .lt := by
  cases a <;> cases b <;> cases c <;> simp_all [order?, Int.compare_eq_lt]
  omega

theorem isSome_order? {a b : Magnitude} (ha : a ≠ .nan) (hb : b ≠ .nan) :
    (a.order? b).isSome := by
  cases a <;> cases b <;> simp_all [order?]

end Magnitude

namespace Value

/-! ## Texts -/

theorem textOrder_swap (s t : String) : textOrder t s = (textOrder s t).swap := by
  unfold textOrder
  rcases lt_trichotomy s t with h | rfl | h
  · simp [h, h.not_gt, h.ne']
  · simp
  · simp [h, h.not_gt, h.ne']

theorem eq_of_textOrder {s t : String} (h : textOrder s t = .eq) : s = t := by
  unfold textOrder at h
  split at h
  · cases h
  · split at h
    · assumption
    · cases h

theorem textOrder_eq_lt {s t : String} : textOrder s t = .lt ↔ s < t := by
  unfold textOrder
  split
  · simp_all
  · split <;> simp_all

/-! ## The order behind the relations -/

/-- How two values lie to one another neither of which is taken apart. -/
def orderAtoms? (x y : Value) : Option Ordering :=
  x.magnitude?.bind fun a => y.magnitude?.bind a.order?

mutual

/-- How two values lie to one another, if they do. -/
def order? : Value → Value → Option Ordering
  | .tuple xs, .tuple ys => orderAll? xs ys
  | .text s, .text t => some (textOrder s t)
  | x, y => orderAtoms? x y

/-- How two tuples lie to one another, if they do. -/
def orderAll? : List Value → List Value → Option Ordering
  | x :: xs, y :: ys => if equal x y then orderAll? xs ys else order? x y
  | [], [] => some .eq
  | [], _ :: _ => some .lt
  | _ :: _, [] => some .gt

end

/-- The two values are compared by their positions. -/
structure Atoms (x y : Value) : Prop where
  relate : ∀ r, relate r x y = relateAtoms r x y
  order : order? x y = orderAtoms? x y
  swapped : order? y x = orderAtoms? y x

/-- Induction over two values at once, along the way in which `relate` compares them. -/
theorem pairInduction {P : Value → Value → Prop} {Q : List Value → List Value → Prop}
    (tuples : ∀ xs ys, Q xs ys → P (.tuple xs) (.tuple ys))
    (texts : ∀ s t, P (.text s) (.text t))
    (atoms : ∀ x y, Atoms x y → P x y)
    (same : ∀ x xs y ys, equal x y = true → Q xs ys → Q (x :: xs) (y :: ys))
    (differ : ∀ x xs y ys, equal x y = false → P x y → Q (x :: xs) (y :: ys))
    (nils : Q [] [])
    (shorter : ∀ y ys, Q [] (y :: ys))
    (longer : ∀ x xs, Q (x :: xs) []) :
    (∀ x y, P x y) ∧ ∀ xs ys, Q xs ys := by
  -- The recursion is the same for all four relations.
  refine relate.mutual_induct P Q tuples texts (fun x y htuple htext => ?_) same
    (fun x xs y ys hne => differ x xs y ys (Bool.eq_false_iff.2 hne)) nils shorter longer
  refine atoms x y ⟨fun r => ?_, ?_, ?_⟩ <;> cases x <;> cases y <;>
    first | rfl | exact (htuple _ _ rfl rfl).elim | exact (htext _ _ rfl rfl).elim

/-- The result of a relation agrees with the order `o`. Where there is none, the relation does not
    hold, or fails. -/
def ReadOff (r : Relation) (o : Option Ordering) (result : Except Failure Bool) : Prop :=
  match o with
  | some o => result = .ok (r.holds o)
  | .none => result ≠ .ok true

/-- Every relation is read off `order?`. -/
theorem relate_readOff (r : Relation) :
    (∀ x y, ReadOff r (order? x y) (relate r x y)) ∧
      ∀ xs ys, ReadOff r (orderAll? xs ys) (relateAll r xs ys) := by
  apply pairInduction
  case tuples =>
    intro xs ys ih
    rwa [order?, relate]
  case texts => exact fun s t => rfl
  case atoms =>
    intro x y hxy
    rw [hxy.order, hxy.relate, orderAtoms?, relateAtoms]
    cases x.magnitude? with
    | none => simp [ReadOff]
    | some a =>
      cases y.magnitude? with
      | none => simp [ReadOff]
      | some b => cases ho : a.order? b <;> simp [ReadOff, ho]
  case same =>
    intro x xs y ys hxy ih
    rwa [orderAll?, relateAll, if_pos hxy, if_pos hxy]
  case differ =>
    intro x xs y ys hxy ih
    rwa [orderAll?, relateAll, hxy, if_neg (by simp), if_neg (by simp)]
  case nils => rfl
  case shorter => exact fun y ys => rfl
  case longer => exact fun x xs => rfl

/-! ## Equal values -/

/-- A value with a position equals exactly the values at the same position. -/
theorem equal_of_magnitude {x : Value} {a : Magnitude} (hx : x.magnitude? = some a) (z : Value) :
    equal x z = z.magnitude?.any a.same := by
  cases x with
  | text | none | tuple => cases hx
  | int | real | bool =>
    obtain rfl := Option.some.inj hx
    cases z <;> rfl

/-- A value with a position is in order with the values that have one. -/
theorem order?_of_magnitude {x : Value} {a : Magnitude} (hx : x.magnitude? = some a) (z : Value) :
    order? x z = z.magnitude?.bind a.order? := by
  cases x with
  | text | none | tuple => cases hx
  | int | real | bool =>
    obtain rfl := Option.some.inj hx
    cases z <;> rfl

/-- Induction over two equal values at once. -/
theorem equalInduction {P : Value → Value → Prop} {Q : List Value → List Value → Prop}
    (tuples : ∀ xs ys, Q xs ys → P (.tuple xs) (.tuple ys))
    (texts : ∀ s, P (.text s) (.text s))
    (nones : P .none .none)
    (numbers : ∀ x y a, x.magnitude? = some a → y.magnitude? = some a → a.same a = true → P x y)
    (nils : Q [] [])
    (conses : ∀ x xs y ys, equal x y = true → P x y → Q xs ys → Q (x :: xs) (y :: ys)) :
    (∀ x y, equal x y = true → P x y) ∧ ∀ xs ys, equalAll xs ys = true → Q xs ys := by
  refine equal.mutual_induct (fun x y => equal x y = true → P x y)
    (fun xs ys => equalAll xs ys = true → Q xs ys) ?_ ?_ ?_ ?_ ?_ ?_ ?_ ?_
  · intro xs ys ih h
    rw [equal] at h
    exact tuples xs ys (ih h)
  · intro s t h
    rw [equal, beq_iff_eq] at h
    rw [← h]
    exact texts s
  · exact fun _ => nones
  · intro x y _ _ _ a b hy hx h
    rw [equal_of_magnitude hx, hy, Option.any_some] at h
    obtain rfl := Magnitude.eq_of_same h
    exact numbers x y a hx hy h
  · intro x y htuple htext hnone hnumber h
    -- Only the pairs that are equal by one of the cases before this one are left.
    cases hx : x.magnitude? with
    | some a =>
      rw [equal_of_magnitude hx] at h
      obtain ⟨b, hy, -⟩ := (Option.any_eq_true _ _).1 h
      exact (hnumber a b hx hy).elim
    | none =>
      cases x <;> cases y <;>
        first
          | exact (htuple _ _ rfl rfl).elim
          | exact (htext _ _ rfl rfl).elim
          | exact (hnone rfl rfl).elim
          | cases h
          | cases hx
  · exact fun _ => nils
  · intro x xs y ys ih ihs h
    rw [equalAll, Bool.and_eq_true] at h
    exact conses x xs y ys h.1 (ih h.1) (ihs h.2)
  · intro xs ys hnil hcons h
    cases xs <;> cases ys <;> simp_all [equalAll]

theorem equal_symm :
    (∀ x y, equal x y = true → equal y x = true) ∧
      ∀ xs ys, equalAll xs ys = true → equalAll ys xs = true := by
  apply equalInduction
  case tuples =>
    intro xs ys ih
    rwa [equal]
  case texts =>
    intro s
    simp [equal]
  case nones => rfl
  case numbers =>
    intro x y a hx hy ha
    rwa [equal_of_magnitude hy, hx]
  case nils => rfl
  case conses =>
    intro x xs y ys _ ih ihs
    rw [equalAll, ih, ihs, Bool.and_self]

theorem equal_comm (x y : Value) : equal x y = equal y x :=
  Bool.eq_iff_iff.2 ⟨equal_symm.1 x y, equal_symm.1 y x⟩

/-- Equal values take each other's place. -/
theorem congr_of_equal :
    (∀ x y, equal x y = true → ∀ z, equal x z = equal y z ∧ order? x z = order? y z) ∧
      ∀ xs ys, equalAll xs ys = true →
        ∀ zs, equalAll xs zs = equalAll ys zs ∧ orderAll? xs zs = orderAll? ys zs := by
  apply equalInduction
  case tuples =>
    intro xs ys ih z
    cases z with
    | tuple zs => exact ih zs
    | _ => exact ⟨rfl, rfl⟩
  case texts => exact fun s z => ⟨rfl, rfl⟩
  case nones => exact fun z => ⟨rfl, rfl⟩
  case numbers =>
    intro x y a hx hy _ z
    rw [equal_of_magnitude hx, equal_of_magnitude hy, order?_of_magnitude hx,
      order?_of_magnitude hy]
    exact ⟨rfl, rfl⟩
  case nils => exact fun zs => ⟨rfl, rfl⟩
  case conses =>
    intro x xs y ys _ ih ihs zs
    cases zs with
    | nil => exact ⟨rfl, rfl⟩
    | cons z zs =>
      rw [equalAll, equalAll, orderAll?, orderAll?, (ih z).1, (ih z).2, (ihs zs).1, (ihs zs).2]
      exact ⟨rfl, rfl⟩

theorem eq_of_equal :
    (∀ x y, equal x y = true → ∀ o, order? x y = some o → o = .eq) ∧
      ∀ xs ys, equalAll xs ys = true → ∀ o, orderAll? xs ys = some o → o = .eq := by
  apply equalInduction
  case tuples =>
    intro xs ys ih o h
    rw [order?] at h
    exact ih o h
  case texts =>
    intro s o h
    simp [order?, textOrder] at h
    exact h.symm
  case nones =>
    intro o h
    cases h
  case numbers =>
    intro x y a hx hy ha o h
    rw [order?_of_magnitude hx, hy, Option.bind_some] at h
    rw [Magnitude.same, beq_iff_eq, h, Option.some.injEq] at ha
    exact ha
  case nils =>
    intro o h
    cases h
    rfl
  case conses =>
    intro x xs y ys hxy _ ihs o h
    rw [orderAll?, if_pos hxy] at h
    exact ihs o h

theorem equal_of_eq :
    (∀ x y, order? x y = some .eq → equal x y = true) ∧
      ∀ xs ys, orderAll? xs ys = some .eq → equalAll xs ys = true := by
  apply pairInduction
  case tuples =>
    intro xs ys ih h
    rw [order?] at h
    exact ih h
  case texts =>
    intro s t h
    rw [order?, Option.some.injEq] at h
    rw [equal, eq_of_textOrder h, beq_self_eq_true]
  case atoms =>
    intro x y hxy h
    rw [hxy.order, orderAtoms?] at h
    obtain ⟨a, ha, h⟩ := Option.bind_eq_some_iff.1 h
    obtain ⟨b, hb, h⟩ := Option.bind_eq_some_iff.1 h
    rw [equal_of_magnitude ha, hb, Option.any_some, Magnitude.same, h, beq_self_eq_true]
  case same =>
    intro x xs y ys hxy ih h
    rw [orderAll?, if_pos hxy] at h
    rw [equalAll, hxy, ih h, Bool.and_self]
  case differ =>
    intro x xs y ys hxy ih h
    rw [orderAll?, if_neg (by simp [hxy])] at h
    rw [ih h] at hxy
    cases hxy
  case nils => exact fun _ => rfl
  case shorter =>
    intro y ys h
    cases h
  case longer =>
    intro x xs h
    cases h

/-! ## Exchange and transitivity -/

/-- The order turns around when two values are exchanged. -/
theorem order?_swap :
    (∀ x y, order? y x = (order? x y).map Ordering.swap) ∧
      ∀ xs ys, orderAll? ys xs = (orderAll? xs ys).map Ordering.swap := by
  apply pairInduction
  case tuples =>
    intro xs ys ih
    rwa [order?, order?]
  case texts =>
    intro s t
    rw [order?, order?, textOrder_swap, Option.map_some]
  case atoms =>
    intro x y hxy
    rw [hxy.order, hxy.swapped, orderAtoms?, orderAtoms?]
    cases x.magnitude? with
    | none => cases y.magnitude? <;> rfl
    | some a =>
      cases y.magnitude? with
      | none => rfl
      | some b => exact Magnitude.order?_swap a b
  case same =>
    intro x xs y ys hxy ih
    rw [orderAll?, orderAll?, equal_comm y x, if_pos hxy, if_pos hxy, ih]
  case differ =>
    intro x xs y ys hxy ih
    rw [orderAll?, orderAll?, equal_comm y x, hxy]
    exact ih
  case nils => rfl
  case shorter => exact fun y ys => rfl
  case longer => exact fun x xs => rfl

/-- Equal values take each other's place on the right, too. -/
theorem congr_right {y z : Value} (h : equal y z = true) (x : Value) :
    equal x y = equal x z ∧ order? x y = order? x z := by
  have hcongr := congr_of_equal.1 y z h x
  rw [equal_comm x y, equal_comm x z, order?_swap.1 y x, order?_swap.1 z x, hcongr.1, hcongr.2]
  exact ⟨rfl, rfl⟩

theorem not_equal_of_lt {x y : Value} (h : order? x y = some .lt) : equal x y = false := by
  rw [← Bool.not_eq_true]
  intro hxy
  cases eq_of_equal.1 x y hxy .lt h

/-- The order is transitive. -/
theorem order?_trans :
    (∀ x y, ∀ z, order? x y = some .lt → order? y z = some .lt → order? x z = some .lt) ∧
      ∀ xs ys, ∀ zs, orderAll? xs ys = some .lt → orderAll? ys zs = some .lt →
        orderAll? xs zs = some .lt := by
  apply pairInduction
  case tuples =>
    intro xs ys ih z hxy hyz
    cases z with
    | tuple zs => exact ih zs hxy hyz
    | _ => cases hyz
  case texts =>
    intro s t z hst htz
    cases z with
    | text u =>
      rw [order?, Option.some.injEq, textOrder_eq_lt] at hst htz ⊢
      exact hst.trans htz
    | _ => cases htz
  case atoms =>
    intro x y hxy z h h'
    rw [hxy.order, orderAtoms?] at h
    obtain ⟨a, ha, h⟩ := Option.bind_eq_some_iff.1 h
    obtain ⟨b, hb, h⟩ := Option.bind_eq_some_iff.1 h
    rw [order?_of_magnitude hb] at h'
    obtain ⟨c, hc, h'⟩ := Option.bind_eq_some_iff.1 h'
    rw [order?_of_magnitude ha, hc, Option.bind_some]
    exact Magnitude.order?_trans h h'
  case same =>
    intro x xs y ys hxy ih zs h h'
    cases zs with
    | nil => cases h'
    | cons z zs =>
      -- The equal heads lie to the third one alike.
      have hcongr := congr_of_equal.1 x y hxy z
      rw [orderAll?, if_pos hxy] at h
      rw [orderAll?] at h' ⊢
      rw [hcongr.1, hcongr.2]
      split at h'
      · rename_i hyz
        rw [if_pos hyz]
        exact ih zs h h'
      · rename_i hyz
        rw [if_neg hyz]
        exact h'
  case differ =>
    intro x xs y ys hxy ih zs h h'
    cases zs with
    | nil => cases h'
    | cons z zs =>
      -- The heads decide the first pair; they decide the second one, or its heads are equal.
      rw [orderAll?, hxy, if_neg (by simp)] at h
      rw [orderAll?] at h' ⊢
      split at h'
      · rename_i hyz
        have hcongr := congr_right hyz x
        rw [← hcongr.1, ← hcongr.2, hxy, if_neg (by simp)]
        exact h
      · have hxz := ih z h h'
        rw [not_equal_of_lt hxz, if_neg (by simp)]
        exact hxz
  case nils => exact fun zs h => nomatch h
  case shorter =>
    intro y ys zs _ h'
    cases zs with
    | nil => cases h'
    | cons z zs => rfl
  case longer => exact fun x xs zs h => nomatch h

/-- Of three values, one that lies between two others in no way lies below both or above both. -/
theorem order?_cotrans {x y z : Value} {o : Ordering} (hxy : order? x y = some o)
    (hxz : order? x z = some .lt) : o = .lt ∨ order? y z = some .lt := by
  cases o with
  | lt => exact .inl rfl
  | eq =>
    right
    rw [← (congr_of_equal.1 x y (equal_of_eq.1 x y hxy) z).2]
    exact hxz
  | gt =>
    right
    have hyx : order? y x = some .lt := by
      rw [order?_swap.1 x y, hxy]
      rfl
    exact order?_trans.1 y x z hyx hxz

/-! ## Values without `nan` -/

/-- No part of the value is without a position for being `nan`; the parts of a tuple are its
    `leaves`. -/
def NanFree (v : Value) : Prop := ∀ leaf ∈ v.leaves, leaf.magnitude? ≠ some .nan

theorem leaves_of_magnitude {x : Value} {a : Magnitude} (hx : x.magnitude? = some a) :
    x.leaves = [x] := by
  cases x <;> first | rfl | cases hx

/-- Values without `nan` that can be compared, by whichever relation, are in order. -/
theorem isSome_order? (r : Relation) :
    (∀ x y b, NanFree x → NanFree y → relate r x y = .ok b → (order? x y).isSome) ∧
      ∀ xs ys b, (∀ leaf ∈ leavesOfAll xs, leaf.magnitude? ≠ some .nan) →
        (∀ leaf ∈ leavesOfAll ys, leaf.magnitude? ≠ some .nan) → relateAll r xs ys = .ok b →
          (orderAll? xs ys).isSome := by
  apply pairInduction
  case tuples =>
    intro xs ys ih b hx hy h
    rw [relate] at h
    exact ih b hx hy h
  case texts => exact fun s t b _ _ _ => rfl
  case atoms =>
    intro x y hxy b hx hy h
    rw [hxy.relate, relateAtoms] at h
    rw [hxy.order, orderAtoms?]
    cases hmx : x.magnitude? with
    | none => simp [hmx] at h
    | some a =>
      cases hmy : y.magnitude? with
      | none => simp [hmx, hmy] at h
      | some b =>
        have ha := hx x (by rw [leaves_of_magnitude hmx]; exact List.mem_singleton_self x)
        have hb := hy y (by rw [leaves_of_magnitude hmy]; exact List.mem_singleton_self y)
        rw [hmx, ne_eq, Option.some.injEq] at ha
        rw [hmy, ne_eq, Option.some.injEq] at hb
        exact Magnitude.isSome_order? ha hb
  case same =>
    intro x xs y ys hxy ih b hx hy h
    rw [relateAll, if_pos hxy] at h
    rw [orderAll?, if_pos hxy]
    exact ih b (fun leaf hl => hx leaf (List.mem_append_right _ hl))
      (fun leaf hl => hy leaf (List.mem_append_right _ hl)) h
  case differ =>
    intro x xs y ys hxy ih b hx hy h
    rw [relateAll, hxy, if_neg (by simp)] at h
    rw [orderAll?, hxy, if_neg (by simp)]
    exact ih b (fun leaf hl => hx leaf (List.mem_append_left _ hl))
      (fun leaf hl => hy leaf (List.mem_append_left _ hl)) h
  case nils => exact fun b _ _ _ => rfl
  case shorter => exact fun y ys b _ _ _ => rfl
  case longer => exact fun x xs b _ _ _ => rfl

/-! ## Better values -/

/-- The first value is strictly lower than the second, or strictly higher if not `minimize`. -/
def Beats (minimize : Bool) (x y : Value) : Prop :=
  x.relate (if minimize then .less else .greater) y = .ok true

/-- A strict relation holds where the order says so, and only there. -/
theorem beats_iff {minimize : Bool} {x y : Value} :
    Beats minimize x y ↔ order? x y = some (if minimize then .lt else .gt) := by
  have hread := (relate_readOff (if minimize then .less else .greater)).1 x y
  unfold Beats
  cases ho : order? x y with
  | none =>
    rw [ho] at hread
    exact iff_of_false hread (by simp)
  | some o =>
    rw [ho] at hread
    rw [show _ = _ from hread]
    cases minimize <;> cases o <;> decide

/-- To be lower is to be higher seen from the other side. -/
theorem beats_swap {x y : Value} : Beats false x y ↔ Beats true y x := by
  rw [beats_iff, beats_iff, order?_swap.1 x y]
  cases order? x y with
  | none => simp
  | some o => cases o <;> decide

theorem beats_irrefl (minimize : Bool) (x : Value) : ¬ Beats minimize x x := by
  rw [beats_iff]
  intro h
  have hswap := order?_swap.1 x x
  rw [h] at hswap
  cases minimize <;> cases hswap

theorem Beats.trans {minimize : Bool} {x y z : Value} (hxy : Beats minimize x y)
    (hyz : Beats minimize y z) : Beats minimize x z := by
  cases minimize with
  | true =>
    rw [beats_iff] at hxy hyz ⊢
    exact order?_trans.1 x y z hxy hyz
  | false =>
    rw [beats_swap, beats_iff] at hxy hyz ⊢
    exact order?_trans.1 z y x hyz hxy

/-- What is in order with the better of two values is worse than it, or better than the other. -/
theorem Beats.cotrans {minimize : Bool} {x y z : Value} (hxz : Beats minimize x z)
    (hxy : (order? x y).isSome) (hyz : (order? y z).isSome) :
    Beats minimize x y ∨ Beats minimize y z := by
  cases minimize with
  | true =>
    rw [beats_iff] at hxz ⊢
    obtain ⟨o, ho⟩ := Option.isSome_iff_exists.1 hxy
    rcases order?_cotrans ho hxz with rfl | hyz
    · exact .inl ho
    · exact .inr (beats_iff.2 hyz)
  | false =>
    rw [beats_swap, beats_iff] at hxz
    obtain ⟨o, ho⟩ := Option.isSome_iff_exists.1 hyz
    have hzy : order? z y = some o.swap := by
      rw [order?_swap.1 y z, ho]
      rfl
    rcases order?_cotrans hzy hxz with hlt | hyx
    · right
      rw [beats_swap, beats_iff, hzy, hlt]
      rfl
    · left
      rw [beats_swap, beats_iff]
      exact hyx

end Value

end HillClimb
