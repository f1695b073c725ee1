import HillClimb.Number.Binary64

set_option autoImplicit false

/-! # Rounding to 53 significant bits

Numbers are rounded to the nearest among those of 53 significant bits, the `Short` ones
(`Binary64.nearest_rounded`). That alone makes rounding monotone (`Binary64.rounded_mono`), and
makes it keep exactly the numbers that need no more bits (`Binary64.roundedNat_eq_iff`). Everything
is counted in least units, so distances are integers; `magnitude_ofUnits` and `magnitude_ofInt` lead
back to floating-point numbers. -/

namespace HillClimb

/-! ## Nearest multiples -/

/-- The nearest multiple of a number is at least as near as any other. -/
theorem nearestEven_nearest (num den q : Nat) (hpos : 0 < den) :
    ((den * Binary64.nearestEven num den : Nat) - num : Int).natAbs
      ≤ ((den * q : Nat) - num : Int).natAbs := by
  obtain ⟨hhigh, hlow⟩ := Binary64.nearestEven_bounds num den hpos
  generalize Binary64.nearestEven num den = nearest at hhigh hlow ⊢
  -- Another multiple is a whole step away from the nearest one, which is within half a step.
  rcases Nat.lt_trichotomy q nearest with h | rfl | h
  · have hstep := Nat.mul_le_mul_left den (Nat.succ_le_of_lt h)
    rw [Nat.mul_succ] at hstep
    omega
  · exact Nat.le_refl _
  · have hstep := Nat.mul_le_mul_left den (Nat.succ_le_of_lt h)
    rw [Nat.mul_succ] at hstep
    omega

/-- Whoever goes to the nearest of some places keeps the order. -/
theorem nearest_mono {G : Int → Prop} {f : Int → Int} (hG : ∀ n, G (f n))
    (hnearest : ∀ n v, G v → (f n - n).natAbs ≤ (v - n).natAbs) {a b : Int} (h : a ≤ b) :
    f a ≤ f b := by
  have ha := hnearest a (f b) (hG b)
  have hb := hnearest b (f a) (hG a)
  rcases Int.lt_or_eq_of_le h with h | rfl
  · omega
  · exact Int.le_refl _

theorem pow2_add (m n : Nat) : pow2 (m + n) = pow2 m * pow2 n := Nat.pow_add 2 m n

theorem pow2_le {m n : Nat} (h : m ≤ n) : pow2 m ≤ pow2 n := Nat.pow_le_pow_right (by decide) h

namespace Binary64

/-! ## Rounding of whole numbers of units -/

/-- The number has at most 53 significant bits. -/
def Short (n : Nat) : Prop := ∃ m e, m < pow2 53 ∧ n = m * pow2 e

/-- A whole number of units, rounded. -/
def roundedNat (n : Nat) : Nat :=
  pow2 (Nat.log2 n - 52) * nearestEven n (pow2 (Nat.log2 n - 52))

/-- A number below `2 ^ 53` steps of a size has no finer steps than those it is rounded to. -/
theorem step_bounds (n : Nat) :
    n < pow2 53 * pow2 (Nat.log2 n - 52) ∧
      (Nat.log2 n - 52 ≠ 0 → pow2 52 * pow2 (Nat.log2 n - 52) ≤ n) := by
  have hlt : n < pow2 (Nat.log2 n + 1) := Nat.lt_log2_self
  refine ⟨?_, fun hne => ?_⟩
  · rw [← pow2_add]
    exact Nat.lt_of_lt_of_le hlt (pow2_le (by omega))
  · have hn : n ≠ 0 := by
      rintro rfl
      simp at hne
    rw [← pow2_add, show 52 + (Nat.log2 n - 52) = Nat.log2 n by omega]
    exact Nat.log2_self_le hn

/-- What lies below `2 ^ 53` steps is at most so many steps when it is rounded. -/
theorem nearestEven_le {num step : Nat} (hstep : 0 < step) (hlt : num < pow2 53 * step) :
    nearestEven num step ≤ pow2 53 := by
  have hbound := (nearestEven_bounds num step hstep).1
  refine Nat.le_of_not_lt fun hgt => ?_
  have hmore := Nat.mul_le_mul_left step (Nat.succ_le_of_lt hgt)
  rw [Nat.mul_succ, Nat.mul_comm] at hmore
  omega

theorem short_roundedNat (n : Nat) : Short (roundedNat n) := by
  unfold roundedNat
  have hle := nearestEven_le (pow2_pos (Nat.log2 n - 52)) (step_bounds n).1
  generalize Nat.log2 n - 52 = s at hle ⊢
  rcases Nat.lt_or_eq_of_le hle with hlt | heq
  · exact ⟨_, s, hlt, Nat.mul_comm _ _⟩
  · -- A carry into the 54th bit leaves zeros behind.
    refine ⟨pow2 52, s + 1, by decide, ?_⟩
    rw [heq, ← pow2_add, ← pow2_add]
    congr 1
    omega

/-- No `Short` number is nearer. -/
theorem nearest_roundedNat (n : Nat) {w : Nat} (hw : Short w) :
    ((roundedNat n : Int) - n).natAbs ≤ ((w : Int) - n).natAbs := by
  obtain ⟨m, e, hm, rfl⟩ := hw
  obtain ⟨hlt, hge⟩ := step_bounds n
  unfold roundedNat
  generalize Nat.log2 n - 52 = s at hlt hge ⊢
  have hstep := pow2_pos s
  by_cases hse : s ≤ e
  · -- The other number is a multiple of the step, too.
    have hmultiple := nearestEven_nearest n (pow2 s) (m * pow2 (e - s)) hstep
    have hm' : pow2 s * (m * pow2 (e - s)) = m * pow2 e := by
      rw [Nat.mul_left_comm, ← pow2_add, Nat.add_sub_cancel' hse]
    rw [hm'] at hmultiple
    exact hmultiple
  · -- The other number is below the least one that has the step.
    have hbelow : m * pow2 e ≤ pow2 s * pow2 52 :=
      calc m * pow2 e ≤ pow2 53 * pow2 e := Nat.mul_le_mul_right _ (Nat.le_of_lt hm)
        _ = pow2 (e + 53) := by rw [← pow2_add, Nat.add_comm]
        _ ≤ pow2 (s + 52) := pow2_le (by omega)
        _ = pow2 s * pow2 52 := pow2_add s 52
    have hmultiple := nearestEven_nearest n (pow2 s) (pow2 52) hstep
    have hn := hge (by omega)
    rw [Nat.mul_comm] at hn
    omega

/-- Rounding keeps exactly the numbers that are `Short`. -/
theorem roundedNat_eq_iff {n : Nat} : roundedNat n = n ↔ Short n := by
  constructor
  · intro h
    rw [← h]
    exact short_roundedNat n
  · intro h
    have hnear := nearest_roundedNat n h
    omega

/-! ## Signs -/

/-- A whole number of units with a sign, rounded. -/
def rounded (units : Int) : Int := signed (decide (units < 0)) (roundedNat units.natAbs)

theorem rounded_cases (units : Int) :
    units < 0 ∧ rounded units = -(roundedNat units.natAbs : Int) ∨
      0 ≤ units ∧ rounded units = roundedNat units.natAbs := by
  unfold rounded signed
  split <;> rename_i hneg <;> simp only [decide_eq_true_eq] at hneg <;> omega

theorem natAbs_rounded (units : Int) : (rounded units).natAbs = roundedNat units.natAbs := by
  rcases rounded_cases units with ⟨-, h⟩ | ⟨-, h⟩ <;> omega

theorem short_rounded (units : Int) : Short (rounded units).natAbs := by
  rw [natAbs_rounded]
  exact short_roundedNat _

theorem short_zero : Short 0 := ⟨0, 0, by decide, rfl⟩

/-- No `Short` number is nearer, with a sign either. -/
theorem nearest_rounded (units v : Int) (hv : Short v.natAbs) :
    (rounded units - units).natAbs ≤ (v - units).natAbs := by
  have hnear := nearest_roundedNat units.natAbs hv
  -- A number of the other sign is farther away than zero.
  have hzero := nearest_roundedNat units.natAbs short_zero
  rcases rounded_cases units with ⟨hneg, h⟩ | ⟨hpos, h⟩ <;> omega

/-- Rounding keeps the order, since it goes to the nearest of some places: see `nearest_mono`. -/
theorem rounded_mono {a b : Int} (h : a ≤ b) : rounded a ≤ rounded b :=
  nearest_mono (G := fun v => Short v.natAbs) short_rounded nearest_rounded h

theorem rounded_eq_iff {units : Int} : rounded units = units ↔ Short units.natAbs := by
  rw [← roundedNat_eq_iff]
  rcases rounded_cases units with ⟨hneg, h⟩ | ⟨hpos, h⟩ <;> omega

/-! ## Floating-point numbers -/

/-- The number has a mantissa of at most 53 bits, as all that `ofBits` and `round` make. -/
def Proper : Binary64 → Prop
  | .finite _ mantissa scale => mantissa < pow2 53 ∧ scale ≤ maxScale
  | _ => True

/-- Whatever bits are read make a proper number. -/
theorem proper_ofBits (bits : Nat) : (ofBits bits).Proper := by
  have hexponent : bits / pow2 52 % pow2 11 < 2048 := Nat.mod_lt _ (pow2_pos 11)
  have hfraction : bits % pow2 52 < pow2 52 := Nat.mod_lt _ (pow2_pos 52)
  have hdouble : pow2 53 = pow2 52 + pow2 52 := by decide
  unfold ofBits
  dsimp only
  split
  · split <;> trivial
  · split
    · exact ⟨by omega, Nat.zero_le _⟩
    · exact ⟨by omega, by unfold maxScale; omega⟩

/-- Whatever is rounded becomes a proper number. -/
theorem proper_round (negative : Bool) (num : Nat) {den : Nat} (hden : 0 < den) :
    (round negative num den).Proper := by
  have hbelow := (step_bounds (num / den)).1
  have hle : nearestEven num (den * pow2 (Nat.log2 (num / den) - 52)) ≤ pow2 53 := by
    refine nearestEven_le (Nat.mul_pos hden (pow2_pos _)) ?_
    rw [Nat.mul_left_comm, Nat.mul_comm]
    exact (Nat.div_lt_iff_lt_mul hden).1 hbelow
  unfold round
  dsimp only
  generalize nearestEven num (den * pow2 (Nat.log2 (num / den) - 52)) = mantissa at hle ⊢
  split
  · split
    · trivial
    · exact ⟨(by decide : pow2 52 < pow2 53), Nat.le_of_not_lt (by assumption)⟩
  · rename_i hmantissa
    split
    · trivial
    · exact ⟨Nat.lt_of_le_of_ne hle hmantissa, Nat.le_of_not_lt (by assumption)⟩

theorem Proper.short {x : Binary64} (h : x.Proper) {units : Int}
    (hx : x.magnitude = .finite units) : Short units.natAbs := by
  cases x with
  | nan => cases hx
  | infinite negative => cases negative <;> cases hx
  | finite negative mantissa scale =>
    obtain rfl := Magnitude.finite.inj hx
    refine ⟨mantissa, scale, h.1, ?_⟩
    unfold signed
    split <;> omega

/-- The position of what is rounded to a finite number. -/
theorem magnitude_ofUnits {units : Int} {k : Nat} (hk : k ≤ 2096) (h : units.natAbs < pow2 k) :
    (ofUnits units).magnitude = .finite (rounded units) := by
  have hscale : Nat.log2 units.natAbs - 52 < maxScale := by
    rcases Nat.eq_zero_or_pos units.natAbs with hzero | hpos
    · rw [hzero]
      decide
    · have hlog := (Nat.log2_lt (Nat.ne_of_gt hpos)).2 h
      unfold maxScale
      omega
  simp only [ofUnits, round, Nat.div_one, Nat.one_mul, rounded, roundedNat]
  generalize Nat.log2 units.natAbs - 52 = s at hscale ⊢
  by_cases hcarry : nearestEven units.natAbs (pow2 s) = pow2 53
  · rw [if_pos hcarry, if_neg (Nat.not_lt.2 hscale), magnitude, hcarry, ← pow2_add, ← pow2_add]
    congr 3
    omega
  · rw [if_neg hcarry, if_neg (Nat.not_lt.2 (Nat.le_of_lt hscale)), magnitude, Nat.mul_comm]

/-- A power of two adds no significant bits. -/
theorem short_mul_pow2 {n k : Nat} : Short (n * pow2 k) ↔ Short n := by
  constructor
  · rintro ⟨m, e, hm, h⟩
    rcases Nat.le_total k e with hke | hek
    · refine ⟨m, e - k, hm, Nat.eq_of_mul_eq_mul_right (pow2_pos k) ?_⟩
      rw [h, Nat.mul_assoc, ← pow2_add, Nat.sub_add_cancel hke]
    · -- The number is so small that it has at most as many bits as `m`.
      refine ⟨n, 0, Nat.lt_of_le_of_lt ?_ hm, (Nat.mul_one n).symm⟩
      refine Nat.le_of_mul_le_mul_right ?_ (pow2_pos k)
      rw [h]
      exact Nat.mul_le_mul_left m (pow2_le hek)
  · rintro ⟨m, e, hm, rfl⟩
    exact ⟨m, e + k, hm, by rw [pow2_add, Nat.mul_assoc]⟩

theorem natAbs_units (n : Int) :
    (n * Magnitude.unitsPerOne).natAbs = n.natAbs * pow2 1074 := by
  rw [Int.natAbs_mul, Int.natAbs_natCast, Magnitude.unitsPerOne]

/-- The position of the number nearest to an integer. -/
theorem magnitude_ofInt {n : Int} {k : Nat} (hk : k ≤ 1022) (h : n.natAbs < pow2 k) :
    (ofInt n).magnitude = .finite (rounded (n * Magnitude.unitsPerOne)) := by
  refine magnitude_ofUnits (k := k + 1074) (by omega) ?_
  rw [natAbs_units, pow2_add]
  exact Nat.mul_lt_mul_of_pos_right h (pow2_pos 1074)

end Binary64

end HillClimb
