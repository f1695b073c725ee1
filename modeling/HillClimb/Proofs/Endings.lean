import HillClimb.Proofs.Actions

set_option autoImplicit false

/-! # Endings

How a call ends does not depend on the fuel that it is served with: a call that ends with some fuel
ends alike with all greater amounts (`Solver.within_serve`). So one may say how a call ends and
leave the fuel out:

* `Action.Ends x m result m'`: with enough fuel, `x` ends with `result` and leaves `m'`.
* `Action.ends_bind` takes such an end apart along the action, if more fuel changes nothing
  (`Action.Steady`).
* `Solver.Serves` is how a call ends, and `Solver.Consults` how a consultation of a stop
condition. -/

namespace HillClimb

variable {W I S α β : Type}

namespace Action

/-! ## More fuel -/

/-- Wherever `x` ends, `y` ends alike. -/
def Within (x y : Action W I S α) : Prop :=
  ∀ m, (x.runOn m).1 ≠ .error .unfinished → y.runOn m = x.runOn m

namespace Within

theorem refl (x : Action W I S α) : Within x x := fun _ _ => rfl

theorem unfinished (y : Action W I S α) : Within (throw .unfinished) y :=
  fun _ hend => absurd rfl hend

theorem bind {x y : Action W I S α} {f g : α → Action W I S β} (hx : Within x y)
    (hf : ∀ a, Within (f a) (g a)) : Within (x >>= f) (y >>= g) := by
  intro m hend
  rw [run_bind] at hend ⊢
  rw [run_bind]
  rcases hxm : x.runOn m with ⟨halt | a, m'⟩ <;> rw [hxm] at hend
  · have hend' : (x.runOn m).1 ≠ .error .unfinished := by
      rw [hxm]
      exact fun h => hend (congrArg Except.error (Except.error.inj h))
    rw [hx m hend', hxm]
  · rw [hx m (by rw [hxm]; simp), hxm]
    exact hf a m' hend

theorem attempt {x y : Action W I S α} (hx : Within x y) : Within (attempt x) (attempt y) := by
  intro m hend
  rw [run_attempt] at hend ⊢
  rw [run_attempt]
  rcases hxm : x.runOn m with ⟨(cause | _) | a, m'⟩ <;> rw [hxm] at hend
  · rw [hx m (by rw [hxm]; simp), hxm]
  · exact absurd rfl hend
  · rw [hx m (by rw [hxm]; simp), hxm]

end Within

end Action

namespace Solver

variable {method : Method W I S} {x y : Call → Action W I S Unit}

theorem within_play (hs : ∀ c, (x c).Within (y c)) (p : Program W S α) :
    (p.play method x).Within (p.play method y) := by
  induction p with
  | done a => exact .refl _
  | fail cause => exact .refl _
  | look next ih =>
    simp only [Program.play]
    exact (Action.Within.refl _).bind fun _ => (Action.Within.refl _).bind fun m => ih _ _
  | read o next ih =>
    simp only [Program.play]
    exact (Action.Within.refl _).bind fun _ => (Action.Within.refl _).bind fun m => ih _
  | perform h next ih =>
    simp only [Program.play]
    exact (Action.Within.refl _).bind ih
  | call c next ih =>
    simp only [Program.play]
    exact (hs c).attempt.bind fun outcome => (Action.Within.refl _).bind fun _ => ih outcome

/-- Consults a stop condition, as `Solver.laps` does before every step. -/
def consult (method : Method W I S) (cast : Cast W S) (serve : Call → Action W I S Unit)
    (stop : StopId) : Action W I S Bool := do
  method.noteSeen .stopAsked
  (cast.stop stop).play method serve

theorem within_consult {cast : Cast W S} (hs : ∀ c, (x c).Within (y c)) (stop : StopId) :
    (consult method cast x stop).Within (consult method cast y stop) :=
  (Action.Within.refl _).bind fun _ => within_play hs _

variable [Candidate S] {cast : Cast W S}

theorem within_notify (hs : ∀ c, (x c).Within (y c)) (news : News S) (place : Nat)
    (o : ObserverId) :
    (notify method cast x news place o).Within (notify method cast y news place o) := by
  refine (Action.Within.refl _).bind fun _ => ?_
  unfold react
  split
  · exact .refl _
  · exact .refl _
  · exact within_play hs _

theorem within_round (hs : ∀ c, (x c).Within (y c)) (news : News S) {fuel fuel' : Nat}
    (hfuel : fuel ≤ fuel') (place : Nat) :
    (round method cast x news fuel place).Within (round method cast y news fuel' place) := by
  induction fuel generalizing fuel' place with
  | zero => exact .unfinished _
  | succ fuel ih =>
    obtain ⟨fuel', rfl⟩ := Nat.exists_eq_add_of_lt hfuel
    simp only [round]
    refine (Action.Within.refl _).bind fun m => ?_
    cases m.solver.observers[place]? with
    | none => exact .refl _
    | some o => exact (within_notify hs news place o).bind fun _ => ih (by omega) (place + 1)

theorem within_begin (hs : ∀ c, (x c).Within (y c)) {fuel fuel' : Nat} (hfuel : fuel ≤ fuel') :
    (begin method cast x fuel).Within (begin method cast y fuel') :=
  (Action.Within.refl _).bind fun news => within_round hs news hfuel 0

theorem within_advance (hs : ∀ c, (x c).Within (y c)) {fuel fuel' : Nat} (hfuel : fuel ≤ fuel') :
    (advance method cast x fuel).Within (advance method cast y fuel') :=
  (Action.Within.refl _).bind fun news => within_round hs news hfuel 0

/-- A run consults its stop condition first, then looks at its limit, and then makes a step: one
    turn of `Solver.laps`. -/
theorem laps_succ (nested : Call → Action W I S Unit) (stop : StopId) (limit : Option Value)
    (bound fuel count : Nat) :
    laps method cast nested stop limit bound (fuel + 1) count = (do
      let stopped ← consult method cast nested stop
      if stopped then return count
      let reached ← limitReached limit count
      if reached then return count
      advance method cast nested bound
      laps method cast nested stop limit bound fuel (count + 1)) := by
  rw [laps, consult, bind_assoc]

theorem within_laps (hs : ∀ c, (x c).Within (y c)) (stop : StopId) (limit : Option Value)
    {bound bound' fuel fuel' : Nat} (hbound : bound ≤ bound') (hfuel : fuel ≤ fuel')
    (count : Nat) :
    (laps method cast x stop limit bound fuel count).Within
      (laps method cast y stop limit bound' fuel' count) := by
  induction fuel generalizing fuel' count with
  | zero => exact .unfinished _
  | succ fuel ih =>
    obtain ⟨fuel', rfl⟩ := Nat.exists_eq_add_of_lt hfuel
    rw [laps_succ, laps_succ]
    refine (within_consult hs stop).bind fun stopped => ?_
    split
    · exact .refl _
    · refine (Action.Within.refl _).bind fun reached => ?_
      split
      · exact .refl _
      · exact (within_advance hs hbound).bind fun _ => ih (by omega) (count + 1)

theorem within_excursion (hs : ∀ c, (x c).Within (y c)) (stop : StopId) (limit : Option Value)
    {fuel fuel' : Nat} (hfuel : fuel ≤ fuel') :
    (excursion method cast x fuel stop limit).Within (excursion method cast y fuel' stop limit) :=
  (Action.Within.refl _).bind fun _ => (Action.Within.refl _).bind fun _ =>
    (within_laps hs stop limit hfuel hfuel 0).bind fun _ => .refl _

theorem within_runUntil (hs : ∀ c, (x c).Within (y c)) (stop : StopId) (limit : Option Value)
    {fuel fuel' : Nat} (hfuel : fuel ≤ fuel') :
    (runUntil method cast x fuel stop limit).Within (runUntil method cast y fuel' stop limit) := by
  rw [runUntil_eq, runUntil_eq]
  refine (Action.Within.refl _).bind fun m => ?_
  split
  · exact (within_begin hs hfuel).bind fun _ => within_excursion hs stop limit hfuel
  · exact within_excursion hs stop limit hfuel

/-- A call that ends within a bound ends alike within every greater one. -/
theorem within_serve {fuel fuel' : Nat} (hfuel : fuel ≤ fuel') (c : Call) :
    (serve method cast fuel c).Within (serve method cast fuel' c) := by
  -- The calls nested in this one are served one level further down.
  induction fuel generalizing fuel' c with
  | zero => exact .unfinished _
  | succ fuel ih =>
    obtain ⟨fuel', rfl⟩ := Nat.exists_eq_add_of_lt hfuel
    have hless : fuel ≤ fuel + fuel' := by omega
    cases c with
    | start => exact within_begin (ih hless) hless
    | step => exact within_advance (ih hless) hless
    | run stop limit => exact within_runUntil (ih hless) stop limit hless
    | observe o => exact .refl _
    | setStagnation n => exact .refl _

theorem within_run {fuel fuel' : Nat} (hfuel : fuel ≤ fuel') (stop : StopId)
    (limit : Option Value) :
    (run method cast fuel stop limit).Within (run method cast fuel' stop limit) :=
  (within_serve hfuel _).bind fun _ => .refl _

end Solver

/-! ## How an action ends -/

namespace Action

/-- With enough fuel the action ends with `result`, and leaves `m'`. -/
def Ends (x : Nat → Action W I S α) (m : Machine W I S) (result : Except Failure α)
    (m' : Machine W I S) : Prop :=
  ∃ fuel, (x fuel).runOn m = (result.mapError .failed, m')

/-- More fuel changes no end of the action: each amount is `Within` every greater one. -/
def Steady (x : Nat → Action W I S α) : Prop :=
  ∀ fuel fuel', fuel ≤ fuel' → (x fuel).Within (x fuel')

theorem mapError_failed_ne (result : Except Failure α) :
    result.mapError Halt.failed ≠ .error .unfinished := by
  cases result <;> simp

theorem mapError_failed_inj {result result' : Except Failure α}
    (h : result.mapError Halt.failed = result'.mapError Halt.failed) : result = result' := by
  cases result <;> cases result' <;> simp_all

/-- If one action after another ended, then the first one failed, or it returned and the second
    ended. -/
theorem bind_ended {x : Action W I S α} {f : α → Action W I S β} {m m₂ : Machine W I S}
    {result : Except Failure β} (h : (x >>= f).runOn m = (result.mapError .failed, m₂)) :
    (∃ cause, result = .error cause ∧ x.runOn m = (.error (.failed cause), m₂)) ∨
      ∃ a m₁, x.runOn m = (.ok a, m₁) ∧ (f a).runOn m₁ = (result.mapError .failed, m₂) := by
  rw [run_bind] at h
  rcases hxm : x.runOn m with ⟨(cause | _) | a, m₁⟩ <;> rw [hxm] at h
  · obtain ⟨hresult, rfl⟩ := Prod.mk.inj h
    refine .inl ⟨cause, ?_, rfl⟩
    exact mapError_failed_inj (hresult.symm.trans (mapError_failed_error cause).symm)
  · exact absurd (congrArg Prod.fst h).symm (mapError_failed_ne result)
  · exact .inr ⟨a, m₁, rfl, h⟩

section

variable {x y : Nat → Action W I S α} {m m₁ m₂ : Machine W I S} {result result' : Except Failure α}

/-- What comes of some fuel is how the action ends, if it is a result. -/
theorem Ends.of_run {fuel : Nat} (h : ((x fuel).runOn m).1 = result.mapError .failed) :
    Ends x m result ((x fuel).runOn m).2 :=
  ⟨fuel, Prod.ext h rfl⟩

/-- An action that does not look at the fuel ends as it does. -/
theorem ends_const {x : Action W I S α} :
    Ends (fun _ => x) m result m₁ ↔ x.runOn m = (result.mapError .failed, m₁) :=
  ⟨fun ⟨_, h⟩ => h, fun h => ⟨0, h⟩⟩

theorem Steady.const (x : Action W I S α) : Steady fun _ => x :=
  fun _ _ _ => .refl x

theorem Steady.bind {f : Nat → α → Action W I S β} (hx : Steady x)
    (hf : ∀ a, Steady fun fuel => f fuel a) : Steady fun fuel => x fuel >>= f fuel :=
  fun fuel fuel' h => (hx fuel fuel' h).bind fun a => hf a fuel fuel' h

/-- What ends with some fuel ends alike with more. -/
theorem Steady.run (hx : Steady x) {fuel fuel' : Nat} (hfuel : fuel ≤ fuel')
    (h : (x fuel).runOn m = (result.mapError .failed, m₁)) :
    (x fuel').runOn m = (result.mapError .failed, m₁) := by
  rw [hx fuel fuel' hfuel m (by rw [h]; exact mapError_failed_ne result), h]

/-- What ends, ends alike with all amounts of fuel from some amount on. -/
theorem Ends.settled (hx : Steady x) (h : Ends x m result m₁) :
    ∃ need, ∀ fuel, need ≤ fuel → (x fuel).runOn m = (result.mapError .failed, m₁) := by
  obtain ⟨need, h⟩ := h
  exact ⟨need, fun fuel hfuel => hx.run hfuel h⟩

/-- An action ends in one way only, if it is `Steady`. -/
theorem Ends.unique (hx : Steady x) (h : Ends x m result m₁) (h' : Ends x m result' m₂) :
    result = result' ∧ m₁ = m₂ := by
  obtain ⟨fuel, h⟩ := h
  obtain ⟨fuel', h'⟩ := h'
  have hsame := (hx.run (Nat.le_max_left fuel fuel') h).symm.trans
    (hx.run (Nat.le_max_right fuel fuel') h')
  exact ⟨mapError_failed_inj (congrArg Prod.fst hsame), congrArg Prod.snd hsame⟩

/-- What ends, ends alike wherever each amount of fuel is within some other. -/
theorem Ends.of_within (hxy : ∀ fuel, ∃ fuel', (x fuel).Within (y fuel'))
    (h : Ends x m result m₁) : Ends y m result m₁ := by
  obtain ⟨fuel, h⟩ := h
  obtain ⟨fuel', hwithin⟩ := hxy fuel
  exact ⟨fuel', by rw [hwithin m (by rw [h]; exact mapError_failed_ne result), h]⟩

/-- Two actions that are `Within` each other end alike. -/
theorem ends_congr (hxy : ∀ fuel, ∃ fuel', (x fuel).Within (y fuel'))
    (hyx : ∀ fuel, ∃ fuel', (y fuel).Within (x fuel')) :
    Ends x m result m₁ ↔ Ends y m result m₁ :=
  ⟨.of_within hxy, .of_within hyx⟩

/-- With one more unit of fuel nothing ends otherwise. -/
theorem ends_succ (hx : Steady x) :
    Ends (fun fuel => x (fuel + 1)) m result m₁ ↔ Ends x m result m₁ :=
  ends_congr (fun fuel => ⟨fuel + 1, .refl _⟩)
    fun fuel => ⟨fuel, hx fuel (fuel + 1) (Nat.le_add_right fuel 1)⟩

/-- An action after another ends if the first one fails, or if it returns and the second ends. -/
theorem ends_bind {f : Nat → α → Action W I S β} {result : Except Failure β} (hx : Steady x)
    (hf : ∀ a, Steady fun fuel => f fuel a) :
    Ends (fun fuel => x fuel >>= f fuel) m result m₂ ↔
      (∃ cause, result = .error cause ∧ Ends x m (.error cause) m₂) ∨
        ∃ a m₁, Ends x m (.ok a) m₁ ∧ Ends (fun fuel => f fuel a) m₁ result m₂ := by
  constructor
  · rintro ⟨fuel, h⟩
    rcases bind_ended h with ⟨cause, hresult, h⟩ | ⟨a, m₁, h, h'⟩
    · exact .inl ⟨cause, hresult, fuel, h⟩
    · exact .inr ⟨a, m₁, ⟨fuel, h⟩, fuel, h'⟩
  · rintro (⟨cause, rfl, fuel, h⟩ | ⟨a, m₁, ⟨fuel, h⟩, fuel', h'⟩)
    · refine ⟨fuel, ?_⟩
      rw [run_bind, h]
      rfl
    · -- Both parts end with the greater of the two amounts.
      refine ⟨max fuel fuel', ?_⟩
      rw [run_bind, hx.run (Nat.le_max_left fuel fuel') h]
      exact (hf a).run (Nat.le_max_right fuel fuel') h'

/-- So does an action that does not look at the fuel. -/
theorem ends_bind_const {f : α → Action W I S β} {result : Except Failure β} (hx : Steady x) :
    Ends (fun fuel => x fuel >>= f) m result m₂ ↔
      (∃ cause, result = .error cause ∧ Ends x m (.error cause) m₂) ∨
        ∃ a m₁, Ends x m (.ok a) m₁ ∧ (f a).runOn m₁ = (result.mapError .failed, m₂) := by
  rw [ends_bind (f := fun _ => f) hx fun a => .const (f a)]
  simp only [ends_const]

/-- What an action does after one that always returns. -/
theorem ends_after {x : Action W I S α} {f : Nat → α → Action W I S β}
    {result : Except Failure β} {a : α} (h : x.runOn m = (.ok a, m₁)) :
    Ends (fun fuel => x >>= f fuel) m result m₂ ↔ Ends (fun fuel => f fuel a) m₁ result m₂ := by
  simp only [Ends, run_bind, h]

end

end Action

/-! ## How a run ends -/

namespace Solver

variable [Candidate S] (method : Method W I S) (cast : Cast W S)

/-- How a call of `Solver.serve` ends. -/
def Serves (c : Call) : Machine W I S → Except Failure Unit → Machine W I S → Prop :=
  Action.Ends fun fuel => serve method cast fuel c

/-- How a consultation ends, as `consult` makes it. -/
def Consults (stop : StopId) : Machine W I S → Except Failure Bool → Machine W I S → Prop :=
  Action.Ends fun fuel => consult method cast (serve method cast fuel) stop

variable {method cast}

theorem steady_serve (c : Call) : Action.Steady fun fuel => serve method cast fuel c :=
  fun _ _ h => within_serve h c

theorem steady_consult (stop : StopId) :
    Action.Steady fun fuel => consult method cast (serve method cast fuel) stop :=
  fun _ _ h => (Action.Within.refl _).bind fun _ => within_play (within_serve h) _

/-- A step that ends, ends alike with all amounts of fuel from some amount on. -/
theorem Serves.advance {m m' : Machine W I S} {result : Except Failure Unit}
    (h : Serves method cast .step m result m') :
    ∃ need, ∀ fuel, need ≤ fuel →
      (Solver.advance method cast (serve method cast fuel) fuel).runOn m
        = (result.mapError .failed, m') := by
  obtain ⟨need, h⟩ := Action.Ends.settled (steady_serve .step) h
  exact ⟨need, fun fuel hfuel => h (fuel + 1) (by omega)⟩

theorem steady_laps (stop : StopId) (limit : Option Value) (count : Nat) :
    Action.Steady fun fuel =>
      laps method cast (serve method cast fuel) stop limit fuel fuel count :=
  fun _ _ h => within_laps (within_serve h) stop limit h h count

theorem steady_excursion (stop : StopId) (limit : Option Value) :
    Action.Steady fun fuel => excursion method cast (serve method cast fuel) fuel stop limit :=
  fun _ _ h => within_excursion (within_serve h) stop limit h

end Solver

end HillClimb
