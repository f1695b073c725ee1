import HillClimb.Proofs.CostOrder
import HillClimb.Proofs.Rounding
import HillClimb.Proofs.Wholeness
import HillClimb.Scenario.Report

set_option autoImplicit false

/-! # What readings keep of costs

The costs of a trajectory are read back as an array, whose elements are all of one kind
(`ElementKind.ofValues`). If they are numbers and truth values (`Value.Numeric`) the array has one
dimension and an entry for every cost, and only one thing can be lost: in an array of floating-point
numbers an integer of more than 53 significant bits (`Value.Overlong`) is read as the number nearest
to it. The order is never turned around, since rounding is monotone, and different costs are read as
equal only if such an integer is among them.

All of this is `Reading.Keeps`, and the result is `readings_keep_costs`. -/

namespace HillClimb

/-! ## Costs that are numbers -/

/-- The value is an integer of any size, a truth value, or a floating-point number that is not
    `nan`. -/
inductive Value.Numeric : Value → Prop
  | int (n : Int) : Numeric (.int n)
  | bool (b : Bool) : Numeric (.bool b)
  | real {x : Binary64} (proper : x.Proper) (hnan : x ≠ .nan) : Numeric (.real x)

/-- The value is an integer of more than 53 significant bits, so it is not `Binary64.Short`. -/
def Value.Overlong : Value → Prop
  | .int n => ¬ Binary64.Short n.natAbs
  | _ => False

/-! ## Flat lists -/

theorem Survey.value_flat {v : Value} (h : v.Numeric) (depth : Nat) (s : Survey) :
    Survey.value depth v s = s.leaf depth := by
  cases h <;> rfl

/-- Nothing new is learnt from the rest of a list that holds no tuples. -/
theorem Survey.all_flat {values : List Value} (h : ∀ v ∈ values, v.Numeric) {s : Survey}
    (hlimit : s.limit = 1) (hsettled : s.settled = true) : Survey.all 1 values s = s := by
  induction values with
  | nil => rfl
  | cons v values ih =>
    have hleaf : s.leaf 1 = s := by
      rw [leaf, if_pos hlimit, ← hsettled]
    rw [all, value_flat (h v List.mem_cons_self), hleaf]
    exact ih fun v' hv' => h v' (List.mem_cons_of_mem _ hv')

/-- A list that holds no tuples has one dimension. -/
theorem shapeOf_flat {values : List Value} (h : ∀ v ∈ values, v.Numeric) :
    shapeOf values = .ok [values.length] := by
  cases values with
  | nil => rfl
  | cons v values =>
    -- The first value settles that there are no more dimensions.
    have hfirst : Survey.value 1 v (Survey.note {} 0 (values.length + 1))
        = { lengths := #[values.length + 1], limit := 1, settled := true, uneven := false } :=
      (Survey.value_flat (h v List.mem_cons_self) _ _).trans rfl
    have hsurvey : Survey.value 0 (.tuple (v :: values)) {}
        = { lengths := #[values.length + 1], limit := 1, settled := true, uneven := false } := by
      show Survey.all 1 values (Survey.value 1 v (Survey.note {} 0 (values.length + 1))) = _
      rw [hfirst]
      exact Survey.all_flat (fun v' hv' => h v' (List.mem_cons_of_mem _ hv')) rfl rfl
    rw [shapeOf, hsurvey]
    rfl

theorem leavesOfAll_flat {values : List Value} (h : ∀ v ∈ values, v.Numeric) :
    leavesOfAll values = values := by
  induction values with
  | nil => rfl
  | cons v values ih =>
    rw [leavesOfAll, ih fun v' hv' => h v' (List.mem_cons_of_mem _ hv')]
    cases h v List.mem_cons_self <;> rfl

theorem Reading.convertAll_flat {values : List Value} (h : ∀ v ∈ values, v.Numeric)
    (kind : ElementKind) : Reading.convertAll kind values = values.map kind.convert := by
  induction values with
  | nil => rfl
  | cons v values ih =>
    rw [convertAll, ih fun v' hv' => h v' (List.mem_cons_of_mem _ hv'), List.map_cons]
    cases h v List.mem_cons_self <;> rfl

/-- A list of numbers is read as an array of one dimension, number by number: each is what
    `ElementKind.convert` makes of it. -/
theorem Reading.ofValues_flat {values : List Value} (h : ∀ v ∈ values, v.Numeric) :
    Reading.ofValues values = .ok ⟨.ofValues values, [values.length],
      values.map (ElementKind.ofValues values).convert⟩ := by
  rw [ofValues, shapeOf_flat h, leavesOfAll_flat h, ← convertAll_flat h]
  rfl

/-! ## Kinds of arrays -/

namespace ElementKind

/-- The integer fits into a word, with or without a sign: it is an element of an `int64` or of a
    `uint64` array. -/
def FitsWord (n : Int) : Prop := Width.machine.holds n ∨ Width.unsignedMachine.holds n

/-- The kind of a single number. -/
theorem ofValue_eq_iff {v : Value} (h : v.Numeric) (k : ElementKind) :
    ofValue v = k ↔ match k with
      | .bool => ∃ b, v = .bool b
      | .int64 => ∃ n, v = .int n ∧ Width.machine.holds n
      | .uint64 => ∃ n, v = .int n ∧ ¬ Width.machine.holds n ∧ FitsWord n
      | .float64 => ∃ x, v = .real x
      | .text _ => False
      | .object => ∃ n, v = .int n ∧ ¬ FitsWord n := by
  cases h with
  | int n =>
    rw [ofValue]
    split
    · cases k <;> simp_all [FitsWord]
    · split <;> cases k <;> simp_all [FitsWord]
  | bool b => cases k <;> simp [ofValue]
  | real hproper hnan => cases k <;> simp [ofValue]

/-- The kind is not one of texts. -/
def NoText : ElementKind → Prop
  | .text _ => False
  | _ => True

theorem noText_ofValue {v : Value} (h : v.Numeric) : (ofValue v).NoText := by
  cases hkind : ofValue v with
  | text width => exact (ofValue_eq_iff h (.text width)).1 hkind
  | _ => trivial

theorem noText_join {k k' : ElementKind} (hk : k.NoText) (hk' : k'.NoText) :
    (k.join k').NoText := by
  cases k <;> cases k' <;> first | exact hk.elim | exact hk'.elim | trivial

/-- The kind that joins some kinds none of which is of texts. -/
def joined (kinds : List ElementKind) : ElementKind :=
  if .object ∈ kinds then .object
  else if .float64 ∈ kinds ∨ .int64 ∈ kinds ∧ .uint64 ∈ kinds then .float64
  else if .int64 ∈ kinds then .int64
  else if .uint64 ∈ kinds then .uint64
  else .bool

theorem joined_cons_cons {k k' : ElementKind} (hk : k.NoText) (hk' : k'.NoText)
    (kinds : List ElementKind) : joined (k.join k' :: kinds) = joined (k :: k' :: kinds) := by
  cases k <;> cases k' <;> first | exact hk.elim | exact hk'.elim | simp [joined, join]

theorem foldl_join {k : ElementKind} {kinds : List ElementKind} (hk : k.NoText)
    (hkinds : ∀ k' ∈ kinds, k'.NoText) : kinds.foldl join k = joined (k :: kinds) := by
  induction kinds generalizing k with
  | nil => cases k <;> first | rfl | cases hk
  | cons k' kinds ih =>
    have hk' := hkinds k' List.mem_cons_self
    rw [List.foldl_cons, ih (noText_join hk hk') fun k'' hk'' => hkinds k'' (.tail _ hk''),
      joined_cons_cons hk hk']

/-- The kind of an array of numbers is `joined` of the kinds that the numbers have alone. -/
theorem ofValues_eq {values : List Value} (h : ∀ v ∈ values, v.Numeric) (hne : values ≠ []) :
    ofValues values = joined (values.map ofValue) := by
  cases values with
  | nil => exact absurd rfl hne
  | cons v values =>
    have hkinds : ∀ k ∈ values.map ofValue, k.NoText := by
      intro k hk
      obtain ⟨v', hv', rfl⟩ := List.mem_map.1 hk
      exact noText_ofValue (h v' (.tail _ hv'))
    rw [ofValues, List.map_cons, ← foldl_join (noText_ofValue (h v (.head _))) hkinds,
      List.foldl_map]

theorem joined_eq_float64 {kinds : List ElementKind} :
    joined kinds = .float64 ↔
      .object ∉ kinds ∧ (.float64 ∈ kinds ∨ .int64 ∈ kinds ∧ .uint64 ∈ kinds) := by
  unfold joined
  split
  · simp_all
  · split
    · simp_all
    · split
      · simp_all
      · split <;> simp_all

/-- A kind of integers is among those of some values if such an integer is among the values. -/
theorem mem_kinds {values : List Value} (h : ∀ v ∈ values, v.Numeric) {k : ElementKind}
    {Q : Int → Prop} (hk : ∀ v : Value, v.Numeric → (ofValue v = k ↔ ∃ n, v = .int n ∧ Q n)) :
    k ∈ values.map ofValue ↔ ∃ n, .int n ∈ values ∧ Q n := by
  rw [List.mem_map]
  constructor
  · rintro ⟨v, hv, hkind⟩
    obtain ⟨n, rfl, hn⟩ := (hk v (h v hv)).1 hkind
    exact ⟨n, hv, hn⟩
  · rintro ⟨n, hv, hn⟩
    exact ⟨_, hv, (hk _ (h _ hv)).2 ⟨n, rfl, hn⟩⟩

/-- An array of numbers is a `float64` one if it is empty, or if all its integers fit into words and
    there is a floating-point number among the values, or integers that fit only into words of
    different sorts. -/
theorem ofValues_eq_float64 {values : List Value} (h : ∀ v ∈ values, v.Numeric) :
    ofValues values = .float64 ↔ values = [] ∨ (∀ n, .int n ∈ values → FitsWord n) ∧
      ((∃ x, .real x ∈ values) ∨ (∃ n, .int n ∈ values ∧ Width.machine.holds n) ∧
        ∃ n, .int n ∈ values ∧ ¬ Width.machine.holds n) := by
  by_cases hne : values = []
  · simp [hne, ofValues]
  have hreal : .float64 ∈ values.map ofValue ↔ ∃ x, .real x ∈ values := by
    rw [List.mem_map]
    constructor
    · rintro ⟨v, hv, hkind⟩
      obtain ⟨x, rfl⟩ := (ofValue_eq_iff (h v hv) .float64).1 hkind
      exact ⟨x, hv⟩
    · rintro ⟨x, hx⟩
      exact ⟨_, hx, rfl⟩
  rw [ofValues_eq h hne, joined_eq_float64, hreal,
    mem_kinds h fun _ hv => ofValue_eq_iff hv .object,
    mem_kinds h fun _ hv => ofValue_eq_iff hv .int64,
    mem_kinds h fun _ hv => ofValue_eq_iff hv .uint64]
  constructor
  · rintro ⟨hfits, hkinds⟩
    refine .inr ⟨fun n hn => ?_, hkinds.imp_right fun ⟨hsigned, n, hn, hnot, _⟩ =>
      ⟨hsigned, n, hn, hnot⟩⟩
    by_contra hnot
    exact hfits ⟨n, hn, hnot⟩
  · rintro (hnil | ⟨hfits, hkinds⟩)
    · exact absurd hnil hne
    · refine ⟨fun ⟨n, hn, hnot⟩ => hnot (hfits n hn), hkinds.imp_right ?_⟩
      rintro ⟨hsigned, n, hn, hnot⟩
      exact ⟨hsigned, n, hn, hnot, hfits n hn⟩

theorem noText_ofValues {values : List Value} (h : ∀ v ∈ values, v.Numeric) :
    (ofValues values).NoText := by
  by_cases hne : values = []
  · rw [hne]
    trivial
  · rw [ofValues_eq h hne, joined]
    repeat' split
    all_goals trivial

/-- An integer that fits into a word is not beyond the finite numbers. -/
theorem FitsWord.natAbs_lt {n : Int} (h : FitsWord n) : n.natAbs < pow2 65 := by
  have hpowers : pow2 63 + pow2 63 = pow2 64 ∧ pow2 64 + pow2 64 = pow2 65 := by decide
  simp only [FitsWord, Width.holds, Width.machine, Width.unsignedMachine, Width.least, Width.bound,
    Bool.and_eq_true, decide_eq_true_eq] at h
  simp at h
  omega

end ElementKind

/-! ## Entries of arrays -/

/-- A position rounded to 53 significant bits, by `Binary64.rounded`. -/
def Magnitude.rounded : Magnitude → Magnitude
  | .finite units => .finite (Binary64.rounded units)
  | a => a

/-- Rounding keeps the order, but may make two positions equal one of which it moves. -/
theorem Magnitude.order?_rounded {a b : Magnitude} (h : a.order? b = some .lt) :
    a.rounded.order? b.rounded = some .lt ∨
      a.rounded.order? b.rounded = some .eq ∧ (a.rounded ≠ a ∨ b.rounded ≠ b) := by
  cases a with
  | nan => cases h
  | low => cases b <;> first | exact .inl rfl | cases h
  | high => cases b <;> cases h
  | finite u =>
    cases b with
    | nan => cases h
    | low => cases h
    | high => exact .inl rfl
    | finite w =>
      have hlt : u < w := Int.compare_eq_lt.1 (Option.some.inj h)
      have hle := Binary64.rounded_mono (Int.le_of_lt hlt)
      simp only [rounded, order?, Option.some.injEq, Int.compare_eq_lt, Int.compare_eq_eq, ne_eq,
        Magnitude.finite.injEq]
      omega

namespace Value

theorem Numeric.exists_magnitude {v : Value} (h : v.Numeric) :
    ∃ a, v.magnitude? = some a ∧ a ≠ .nan := by
  cases h with
  | int n => exact ⟨_, rfl, Magnitude.noConfusion⟩
  | bool b => exact ⟨_, rfl, Magnitude.noConfusion⟩
  | @real x hproper hnan =>
    refine ⟨_, rfl, ?_⟩
    cases x with
    | nan => exact absurd rfl hnan
    | infinite negative => cases negative <;> exact Magnitude.noConfusion
    | finite => exact Magnitude.noConfusion

/-- An integer is moved by rounding if it has more than 53 significant bits. -/
theorem rounded_ofInt_eq_iff (n : Int) :
    (Magnitude.ofInt n).rounded = .ofInt n ↔ Binary64.Short n.natAbs := by
  rw [Magnitude.ofInt, Magnitude.rounded, Magnitude.finite.injEq, Binary64.rounded_eq_iff,
    Binary64.natAbs_units, Binary64.short_mul_pow2]

theorem short_toInt (b : Bool) : Binary64.Short b.toInt.natAbs := by
  cases b
  · exact Binary64.short_zero
  · exact ⟨1, 0, by decide, rfl⟩

/-- Rounding moves the positions of `Overlong` integers, and no others. -/
theorem Numeric.rounded_eq_iff {v : Value} (h : v.Numeric) {a : Magnitude}
    (ha : v.magnitude? = some a) : a.rounded = a ↔ ¬ v.Overlong := by
  cases h with
  | int n =>
    obtain rfl := Option.some.inj ha
    rw [rounded_ofInt_eq_iff, Overlong, not_not]
  | bool b =>
    obtain rfl := Option.some.inj ha
    exact iff_of_true ((rounded_ofInt_eq_iff _).2 (short_toInt b)) id
  | @real x hproper hnan =>
    obtain rfl := Option.some.inj ha
    refine iff_of_true ?_ id
    cases hx : x.magnitude with
    | finite units =>
      rw [Magnitude.rounded, Binary64.rounded_eq_iff.2 (hproper.short hx)]
    | _ => rfl

end Value

/-- Where a value is read: at its own position, or at the rounded one in an array of floating-point
    numbers. -/
theorem ElementKind.magnitude_convert {values : List Value} (h : ∀ v ∈ values, v.Numeric)
    {v : Value} (hv : v ∈ values) {a : Magnitude} (ha : v.magnitude? = some a) :
    ((ofValues values).convert v).magnitude?
      = some (if ofValues values = .float64 then a.rounded else a) := by
  have hnumeric := h v hv
  by_cases hkind : ofValues values = .float64
  · rw [if_pos hkind, hkind]
    cases hnumeric with
    | int n =>
      obtain rfl := Option.some.inj ha
      rcases (ofValues_eq_float64 h).1 hkind with hnil | ⟨hfits, -⟩
      · simp [hnil] at hv
      · exact congrArg some (Binary64.magnitude_ofInt (by decide) (hfits n hv).natAbs_lt)
    | bool b =>
      obtain rfl := Option.some.inj ha
      have hsmall : b.toInt.natAbs < pow2 65 := by cases b <;> decide
      exact congrArg some (Binary64.magnitude_ofInt (by decide) hsmall)
    | real hproper hnan =>
      rw [((h _ hv).rounded_eq_iff ha).2 id]
      exact ha
  · rw [if_neg hkind]
    have htext := noText_ofValues h
    generalize ofValues values = k at hkind htext ⊢
    cases k with
    | float64 => exact absurd rfl hkind
    | text => exact htext.elim
    | _ => cases hnumeric <;> exact ha

/-! ## What is kept -/

/-- No floating-point number is nearer to the integer. -/
def Binary64.Nearest (x : Binary64) (n : Int) : Prop :=
  ∃ units, x.magnitude = .finite units ∧ ∀ (y : Binary64) (w : Int), y.Proper →
    y.magnitude = .finite w →
      (units - n * Magnitude.unitsPerOne).natAbs ≤ (w - n * Magnitude.unitsPerOne).natAbs

/-- The array has one dimension and an entry for every value. An entry is equal to its value unless
    the array is a `float64` one and the value is `Overlong`; then it is the `Binary64.Nearest`
    number. The order of the values is kept, up to ties in which such an integer takes part. -/
structure Reading.Keeps (r : Reading) (values : List Value) : Prop where
  shape : r.shape = [values.length]
  length : r.values.length = values.length
  kind : r.kind = .float64 ↔ values = [] ∨ (∀ n, .int n ∈ values → ElementKind.FitsWord n) ∧
    ((∃ x, .real x ∈ values) ∨ (∃ n, .int n ∈ values ∧ Width.machine.holds n) ∧
      ∃ n, .int n ∈ values ∧ ¬ Width.machine.holds n)
  equal : ∀ (i : Nat) (v w : Value), values[i]? = some v → r.values[i]? = some w →
    (w.equal v = true ↔ ¬ (r.kind = .float64 ∧ v.Overlong))
  nearest : ∀ (i : Nat) (n : Int) (w : Value), values[i]? = some (.int n) → r.values[i]? = some w →
    r.kind = .float64 → ∃ x : Binary64, w = .real x ∧ x.Nearest n
  order : ∀ (minimize : Bool) (i j : Nat) (v v' w w' : Value), values[i]? = some v →
    values[j]? = some v' → r.values[i]? = some w → r.values[j]? = some w' → v.Beats minimize v' →
      w.Beats minimize w' ∨ w.equal w' = true ∧ r.kind = .float64 ∧ (v.Overlong ∨ v'.Overlong)

namespace Reading

variable {values : List Value}

/-- An entry is equal to what was recorded if rounding does not move it. -/
theorem equal_convert (h : ∀ v ∈ values, v.Numeric) {v : Value} (hv : v ∈ values) :
    ((ElementKind.ofValues values).convert v).equal v = true ↔
      ¬ (ElementKind.ofValues values = .float64 ∧ v.Overlong) := by
  obtain ⟨a, ha, hnan⟩ := (h v hv).exists_magnitude
  have hentry := ElementKind.magnitude_convert h hv ha
  rw [Value.equal_of_magnitude hentry, ha, Option.any_some]
  have hsame : a.same a = true := by
    cases a <;> simp_all [Magnitude.same, Magnitude.order?]
  by_cases hkind : ElementKind.ofValues values = .float64
  · rw [if_pos hkind, and_iff_right hkind, ← (h v hv).rounded_eq_iff ha]
    constructor
    · exact Magnitude.eq_of_same
    · intro hfixed
      rw [hfixed]
      exact hsame
  · rw [if_neg hkind]
    exact iff_of_true hsame fun hboth => hkind hboth.1

/-- A lower value has a lower entry, or one that rounding has made equal. -/
theorem beats_convert (h : ∀ v ∈ values, v.Numeric) {v v' : Value} (hv : v ∈ values)
    (hv' : v' ∈ values) (hbeats : v.Beats true v') :
    let w := (ElementKind.ofValues values).convert v
    let w' := (ElementKind.ofValues values).convert v'
    w.Beats true w' ∨
      w.equal w' = true ∧ ElementKind.ofValues values = .float64 ∧ (v.Overlong ∨ v'.Overlong) := by
  intro w w'
  obtain ⟨a, ha, -⟩ := (h v hv).exists_magnitude
  obtain ⟨b, hb, -⟩ := (h v' hv').exists_magnitude
  have hw : w.magnitude? = _ := ElementKind.magnitude_convert h hv ha
  have hw' : w'.magnitude? = _ := ElementKind.magnitude_convert h hv' hb
  rw [Value.beats_iff, Value.order?_of_magnitude ha, hb] at hbeats
  rw [Value.beats_iff, Value.order?_of_magnitude hw, Value.equal_of_magnitude hw, hw',
    Option.any_some, Option.bind_some, Magnitude.same, beq_iff_eq]
  by_cases hkind : ElementKind.ofValues values = .float64
  · simp only [if_pos hkind]
    rcases Magnitude.order?_rounded hbeats with hlt | ⟨heq, hmoved⟩
    · exact .inl hlt
    · refine .inr ⟨heq, hkind, ?_⟩
      rw [ne_eq, ne_eq, (h v hv).rounded_eq_iff ha, (h v' hv').rounded_eq_iff hb, not_not,
        not_not] at hmoved
      exact hmoved
  · simp only [if_neg hkind]
    exact .inl hbeats

/-- An integer among floating-point numbers is read as the nearest of them. -/
theorem nearest_convert (h : ∀ v ∈ values, v.Numeric) {n : Int} (hn : .int n ∈ values)
    (hkind : ElementKind.ofValues values = .float64) : (Binary64.ofInt n).Nearest n := by
  have hentry := ElementKind.magnitude_convert h hn rfl
  rw [if_pos hkind, hkind] at hentry
  exact ⟨_, Option.some.inj hentry, fun y w hy hw =>
    Binary64.nearest_rounded _ w (hy.short hw)⟩

/-- The array of some numbers keeps them. -/
theorem keeps_ofValues (h : ∀ v ∈ values, v.Numeric) :
    ∃ r, Reading.ofValues values = .ok r ∧ r.Keeps values := by
  refine ⟨_, ofValues_flat h, rfl, List.length_map _, ElementKind.ofValues_eq_float64 h, ?_, ?_, ?_⟩
  · intro i v w hv hw
    rw [List.getElem?_map, hv, Option.map_some, Option.some.injEq] at hw
    rw [← hw]
    exact equal_convert h (List.mem_of_getElem? hv)
  · intro i n w hn hw hkind
    rw [List.getElem?_map, hn, Option.map_some, Option.some.injEq] at hw
    refine ⟨_, ?_, nearest_convert h (List.mem_of_getElem? hn) hkind⟩
    rw [← hw, show ElementKind.ofValues values = .float64 from hkind]
    rfl
  · intro minimize i j v v' w w' hv hv' hw hw' hbeats
    rw [List.getElem?_map, hv, Option.map_some, Option.some.injEq] at hw
    rw [List.getElem?_map, hv', Option.map_some, Option.some.injEq] at hw'
    rw [← hw, ← hw']
    cases minimize with
    | true =>
      exact beats_convert h (List.mem_of_getElem? hv) (List.mem_of_getElem? hv') hbeats
    | false =>
      -- To be higher is to be lower seen from the other side.
      rw [Value.beats_swap] at hbeats
      rw [Value.beats_swap, Value.equal_comm, or_comm (a := v.Overlong)]
      exact beats_convert h (List.mem_of_getElem? hv') (List.mem_of_getElem? hv) hbeats

end Reading

/-- What is read of a trajectory of numbers keeps its costs, both those of the current solutions and
    those of the neighbours, however long it is and whatever the numbers are. -/
theorem readings_keep_costs {t : Trajectory} (hcosts : ∀ v ∈ t.costs.toList, v.Numeric)
    (hneighbors : ∀ v ∈ t.neighborCosts.toList, v.Numeric) :
    (∃ r, (Scenario.TrajectoryReading.of t).costs = .ok r ∧ r.Keeps t.costs.toList) ∧
      ∃ r, (Scenario.TrajectoryReading.of t).neighborCosts = .ok r ∧
        r.Keeps t.neighborCosts.toList :=
  ⟨Reading.keeps_ofValues hcosts, Reading.keeps_ofValues hneighbors⟩

/-! ## An integer of 54 bits beside one half -/

namespace Value

/-- The least positive integer of more than 53 significant bits. -/
def overlong : Value := .int 9007199254740993

/-- The integer below it, to which it is rounded. -/
def nearby : Value := .int 9007199254740992

/-- One half. -/
def half : Value := .real (.finite false 4503599627370496 1021)

theorem numeric_half : half.Numeric := .real ⟨by decide, by decide⟩ (by decide)

end Value

/-- An integer of 54 bits, a truth value and one half are read as floating-point numbers; an integer
    beyond all words beside one half is not. -/
theorem readings_keep_costs_half :
    let costs : Trail Value := ⟨[.half, .bool true, .overlong]⟩
    let neighborCosts : Trail Value := ⟨[.half, .int 1180591620717411303424]⟩
    let reading := Scenario.TrajectoryReading.of ⟨costs, neighborCosts, ⟨[true, true]⟩⟩
    (∃ r, reading.costs = .ok r ∧ r.shape = [3] ∧ r.kind = .float64) ∧
      ∃ r, reading.neighborCosts = .ok r ∧ r.shape = [2] ∧ r.kind ≠ .float64 := by
  intro costs neighborCosts reading
  have hcosts : ∀ v ∈ costs.toList, v.Numeric := by
    intro v hv
    obtain rfl | rfl | rfl : v = .overlong ∨ v = .bool true ∨ v = .half := by
      simpa [costs, Trail.toList] using hv
    · exact .int _
    · exact .bool _
    · exact Value.numeric_half
  have hneighbors : ∀ v ∈ neighborCosts.toList, v.Numeric := by
    intro v hv
    obtain rfl | rfl : v = .int 1180591620717411303424 ∨ v = .half := by
      simpa [neighborCosts, Trail.toList] using hv
    · exact .int _
    · exact Value.numeric_half
  obtain ⟨⟨r, hr, hkeeps⟩, r', hr', hkeeps'⟩ := readings_keep_costs
    (t := ⟨costs, neighborCosts, ⟨[true, true]⟩⟩) hcosts hneighbors
  have hfits : ∀ n, .int n ∈ costs.toList → ElementKind.FitsWord n := by
    intro n hn
    obtain rfl : n = 9007199254740993 := by
      simpa [costs, Trail.toList, Value.half, Value.overlong] using hn
    exact .inl (by decide)
  have hreal : ∃ x, .real x ∈ costs.toList :=
    ⟨_, List.mem_of_getElem? (i := 2) (rfl : costs.toList[2]? = some .half)⟩
  refine ⟨⟨r, hr, hkeeps.shape, hkeeps.kind.2 (.inr ⟨hfits, .inl hreal⟩)⟩,
    r', hr', hkeeps'.shape, fun hkind => ?_⟩
  rcases hkeeps'.kind.1 hkind with hnil | ⟨hfits', -⟩
  · cases hnil
  · rcases hfits' 1180591620717411303424 (.head _) with h | h
    · exact absurd h (by decide)
    · exact absurd h (by decide)

/-- A search that goes from an integer of 54 bits to the integer below it and then to one half. The
    second cost is better than the first, but they are read as equal, the first not as what it
    was. -/
theorem overlong_cost_is_read_rounded :
    let caller : Program (List Priced) Priced Unit := .startAndStep 2
    let outcome := (caller.play LocalSearch.method
      (Solver.serve LocalSearch.method Cast.eager 9)).runOn
        (Machine.listed [⟨.overlong⟩, ⟨.nearby⟩, ⟨.half⟩] #[0] Level.info)
    let t := outcome.2.recordings.of 0
    Value.equalAll t.costs.toList [.overlong, .nearby, .half] = true ∧
      Value.Beats true .nearby .overlong ∧
      ((Scenario.TrajectoryReading.of t).costs.toOption.map fun r =>
        Value.equalAll r.values [.nearby, .nearby, .half]) = some true :=
  ⟨by decide +kernel, Value.beats_iff.2 (by decide +kernel), by decide +kernel⟩

end HillClimb
