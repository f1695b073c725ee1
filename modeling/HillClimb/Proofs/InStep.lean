import HillClimb.Proofs.History

set_option autoImplicit false

/-! # Two runs in step

Two actions run *in step* if they come to the same result from any two machines that go together,
and leave machines that go together again (`Action.InStep`, and `Action.Abreast` for a single pair
of machines). The left run may have observers that the right run knows nothing of, and is granted
spare turns for them. So the right run may remain unfinished where the left one had turns to spare,
and the left run where its spare turns did not suffice (`Pace.Agree`); but where the right run ends,
some number of spare turns suffices for the left one (`Action.Settles`).

All this is promised as long as the history of the left run is of a certain kind (`Pace.guard`), for
example one in which no cost failed to be known. -/

namespace HillClimb

variable {W I S α β : Type}

/-! ## Machines that grow -/

/-- What happened stays in the history, and who is listed stays in the list, in the same place. -/
structure Machine.Grows (m m' : Machine W I S) : Prop where
  past : m.past <+: m'.past
  observers : m.solver.observers.toList <+: m'.solver.observers.toList

namespace Machine.Grows

variable {m m₁ m₂ : Machine W I S}

theorem refl (m : Machine W I S) : m.Grows m :=
  ⟨List.prefix_refl _, List.prefix_refl _⟩

theorem trans (h : m.Grows m₁) (h' : m₁.Grows m₂) : m.Grows m₂ :=
  ⟨h.past.trans h'.past, h.observers.trans h'.observers⟩

theorem of_unseen (h : m.Unseen m₁) : m.Grows m₁ := by
  obtain ⟨l, -, hpast⟩ := h.past
  refine ⟨?_, ?_⟩
  · rw [hpast]
    exact List.prefix_append _ _
  · simp [h.observers]

/-- The history goes on, and nobody joins. -/
theorem of_past (hobservers : m₁.solver.observers = m.solver.observers) {l : List (Entry S)}
    (hpast : m₁.past = m.past ++ l) : m.Grows m₁ := by
  refine ⟨?_, ?_⟩
  · rw [hpast]
    exact List.prefix_append _ _
  · simp [hobservers]

end Machine.Grows

namespace Action

/-- Catching a failure changes nothing on the machine. -/
theorem leaves_attempt (x : Action W I S α) (m : Machine W I S) :
    ((attempt x).runOn m).2 = (x.runOn m).2 := by
  rw [run_attempt]
  rcases x.runOn m with ⟨(cause | _) | a, m'⟩ <;> rfl

/-- What is unfinished is not caught. -/
theorem unfinished_attempt (x : Action W I S α) (m : Machine W I S) :
    ((attempt x).runOn m).1 = .error .unfinished ↔ (x.runOn m).1 = .error .unfinished := by
  rw [run_attempt]
  rcases x.runOn m with ⟨(cause | _) | a, m'⟩ <;> simp

/-- What comes first has ended if the whole has. -/
theorem ended_of_bind {x : Action W I S α} {f : α → Action W I S β} {m : Machine W I S}
    (h : ((x >>= f).runOn m).1 ≠ .error .unfinished) : (x.runOn m).1 ≠ .error .unfinished := by
  intro hx
  rw [run_bind] at h
  rcases hxm : x.runOn m with ⟨halt | a, m'⟩ <;> rw [hxm] at hx h
  · obtain rfl := Except.error.inj hx
    exact h rfl
  · cases hx

theorem Keeps.leads {P : Machine W I S → Prop} {x : Action W I S α} (hx : Keeps P P x) :
    Leads P x (fun _ => P) fun _ => P := by
  intro m hP
  have hafter := hx m hP
  rcases hxm : x.runOn m with ⟨(cause | _) | a, m'⟩ <;> rw [hxm] at hafter <;> exact hafter

/-- What holds of the machine holds however the action ended. -/
theorem Leads.of_all {P Q : Machine W I S → Prop} {x : Action W I S α}
    (hx : ∀ m, P m → Q (x.runOn m).2) : Leads P x (fun _ => Q) fun _ => Q := by
  intro m hP
  have hQ := hx m hP
  rcases hxm : x.runOn m with ⟨halt | a, m'⟩ <;> rw [hxm] at hQ <;> exact hQ

/-- Besides, `R` holds of what the action returned. -/
theorem Leads.of_ok {P Q : Machine W I S → Prop} {R : α → Machine W I S → Prop}
    {x : Action W I S α} (hx : ∀ m, P m → Q (x.runOn m).2)
    (hok : ∀ m a m', P m → x.runOn m = (.ok a, m') → R a m') :
    Leads P x (fun a m => Q m ∧ R a m) fun _ => Q := by
  intro m hP
  have hQ := hx m hP
  rcases hxm : x.runOn m with ⟨halt | a, m'⟩ <;> rw [hxm] at hQ
  · exact hQ
  · exact ⟨hQ, hok m a m' hP hxm⟩

/-- What is left by an action, however it ends. -/
theorem Leads.leaves {P Q : Machine W I S → Prop} {x : Action W I S α} {m : Machine W I S}
    (hx : Leads P x (fun _ => Q) fun _ => Q) (hP : P m) : Q (x.runOn m).2 := by
  have hafter := hx m hP
  rcases hxm : x.runOn m with ⟨halt | a, m'⟩ <;> rw [hxm] at hafter <;> exact hafter

/-- However it ends, the action leaves a machine that has only grown. -/
def Grows (x : Action W I S α) : Prop := ∀ m : Machine W I S, m.Grows (x.runOn m).2

namespace Grows

theorem pure (a : α) : Grows (pure a : Action W I S α) := fun m => .refl m

theorem throw (h : Halt) : Grows (throw h : Action W I S α) := fun m => .refl m

theorem fail (cause : Failure) : Grows (Action.fail cause : Action W I S α) :=
  .throw (.failed cause)

theorem get : Grows (get : Action W I S (Machine W I S)) := fun m => .refl m

theorem beside {x : Action W I S α} (hx : x.Beside) : Grows x :=
  fun m => .of_unseen (.of_aside (hx m).1)

/-- What comes first has left no more than the whole leaves. -/
theorem bind_left {x : Action W I S α} {f : α → Action W I S β} (hf : ∀ a, Grows (f a))
    (m : Machine W I S) : (x.runOn m).2.Grows ((x >>= f).runOn m).2 := by
  rw [run_bind]
  rcases x.runOn m with ⟨h | a, m'⟩
  · exact .refl m'
  · exact hf a m'

theorem bind {x : Action W I S α} {f : α → Action W I S β} (hx : Grows x)
    (hf : ∀ a, Grows (f a)) : Grows (x >>= f) :=
  fun m => (hx m).trans (bind_left hf m)

theorem attempt {x : Action W I S α} (hx : Grows x) : Grows (attempt x) := by
  intro m
  rw [leaves_attempt]
  exact hx m

theorem noteSeen (method : Method W I S) (entry : Sight S → Entry S) :
    Grows (method.noteSeen entry) :=
  fun _ => .of_past rfl (l := [entry (method.sight _)]) Array.toList_push

theorem record [Candidate S] (method : Method W I S) (o : ObserverId) (news : News S) :
    Grows (record method o news) :=
  fun _ => .of_past rfl Array.toList_append

end Grows

end Action

/-! ## What is promised of two runs -/

/-- What two runs may differ by: see `Program.Matches` and `Action.InStep`. -/
structure Pace (S : Type) where
  /-- What is promised holds as long as the history of the left run is of this kind. -/
  guard : List (Entry S) → Prop
  guard_of_append : ∀ l l', guard (l ++ l') → guard l
  /-- The observers that only the left run has. -/
  extra : ObserverId → Bool

/-- Both runs have the same observers, and everything is promised of all histories. -/
def Pace.free : Pace S where
  guard _ := True
  guard_of_append _ _ _ := trivial
  extra _ := false

/-- As long as no cost fails to be known: the guard is `CostsKnown`. -/
def Pace.knowing [Candidate S] (extra : ObserverId → Bool) : Pace S where
  guard := CostsKnown
  guard_of_append _ _ h := h.of_append
  extra := extra

namespace Pace

variable (pace : Pace S)

/-- The observers that are not extra. -/
def common (observers : List ObserverId) : List ObserverId :=
  observers.filter fun o => !pace.extra o

theorem guard_of_grows {m m' : Machine W I S} (h : m.Grows m') (hguard : pace.guard m'.past) :
    pace.guard m.past := by
  obtain ⟨l, hl⟩ := h.past
  exact pace.guard_of_append m.past l (hl ▸ hguard)

/-- The two runs returned the same, on machines that go together as `Q` says, or halted for the same
    reason, on machines that go together as `E` says; or one of them remained unfinished. -/
inductive Agree (spare : Nat) (Q : α → Machine W I S → Machine W I S → Prop)
    (E : Machine W I S → Machine W I S → Prop) :
    Except Halt α × Machine W I S → Except Halt α × Machine W I S → Prop
  | returned {a : α} {m n : Machine W I S} (h : Q a m n) : Agree spare Q E (.ok a, m) (.ok a, n)
  | halted {halt : Halt} {m n : Machine W I S} (h : E m n) :
      Agree spare Q E (.error halt, m) (.error halt, n)
  | behind {m : Machine W I S} {outcome : Except Halt α × Machine W I S} {o : ObserverId}
      (hextra : pace.extra o = true) : Agree spare Q E (.error .unfinished, m) outcome
  | ahead {n : Machine W I S} {outcome : Except Halt α × Machine W I S} (hspare : 0 < spare) :
      Agree spare Q E outcome (.error .unfinished, n)

variable {pace} {spare : Nat} {Q Q' : α → Machine W I S → Machine W I S → Prop}
  {E E' : Machine W I S → Machine W I S → Prop} {m n : Machine W I S}

theorem Agree.imp {o o' : Except Halt α × Machine W I S} (h : pace.Agree spare Q E o o')
    (hQ : ∀ a m n, Q a m n → Q' a m n) (hE : ∀ m n, E m n → E' m n) :
    pace.Agree spare Q' E' o o' := by
  cases h with
  | returned h => exact .returned (hQ _ _ _ h)
  | halted h => exact .halted (hE _ _ h)
  | behind hextra => exact .behind hextra
  | ahead hspare => exact .ahead hspare

theorem Agree.bind {R : α → Machine W I S → Machine W I S → Prop}
    {Q : β → Machine W I S → Machine W I S → Prop} {x y : Action W I S α}
    {f g : α → Action W I S β} (h : pace.Agree spare R E (x.runOn m) (y.runOn n))
    (hf : ∀ a m' n', x.runOn m = (.ok a, m') → R a m' n' →
      pace.Agree spare Q E ((f a).runOn m') ((g a).runOn n')) :
    pace.Agree spare Q E ((x >>= f).runOn m) ((y >>= g).runOn n) := by
  rw [Action.run_bind, Action.run_bind]
  generalize hx : x.runOn m = o at h hf
  generalize y.runOn n = o' at h
  cases h with
  | returned h => exact hf _ _ _ rfl h
  | halted h => exact .halted h
  | behind hextra => exact .behind hextra
  | ahead hspare => exact .ahead hspare

theorem Agree.of_eq {o o' : Except Halt α × Machine W I S} (h : o'.1 = o.1) (hE : E o.2 o'.2) :
    pace.Agree spare (fun _ => E) E o o' := by
  obtain ⟨result, m⟩ := o
  obtain ⟨result', n⟩ := o'
  obtain rfl := h
  cases result' with
  | ok a => exact .returned hE
  | error halt => exact .halted hE

/-- Unless one of them ran out of turns that it needed, the two runs ended alike. -/
theorem Agree.same {o o' : Except Halt α × Machine W I S}
    (h : pace.Agree spare (fun _ => E) E o o')
    (hleft : o.1 = .error .unfinished → ∀ o, pace.extra o = false)
    (hright : o'.1 = .error .unfinished → spare = 0) : o'.1 = o.1 ∧ E o.2 o'.2 := by
  cases h with
  | returned h => exact ⟨rfl, h⟩
  | halted h => exact ⟨rfl, h⟩
  | behind hextra =>
    rw [hleft rfl] at hextra
    cases hextra
  | ahead hspare => exact absurd (hright rfl) hspare.ne'

end Pace

namespace Action

/-- With all numbers of spare turns from some number on, the action ends, and ends alike. -/
def Settles (x : Nat → Action W I S α) (m : Machine W I S) : Prop :=
  ∃ outcome need, outcome.1 ≠ .error .unfinished ∧
    ∀ spare, need ≤ spare → (x spare).runOn m = outcome

theorem Settles.of_ended {x : Action W I S α} {m : Machine W I S}
    (h : (x.runOn m).1 ≠ .error .unfinished) : Settles (fun _ => x) m :=
  ⟨_, 0, h, fun _ _ => rfl⟩

/-- From these two machines both actions return the same, on machines that go together as `Q` says,
    or halt alike, on machines that go together as `E` says (`Agree`). The left action is given for
    every number of spare turns. -/
structure Abreast (pace : Pace S) (E : Machine W I S → Machine W I S → Prop)
    (x : Nat → Action W I S α) (y : Action W I S α)
    (Q : α → Machine W I S → Machine W I S → Prop) (m n : Machine W I S) : Prop where
  agree : ∀ spare, pace.guard ((x spare).runOn m).2.past →
    pace.Agree spare Q E ((x spare).runOn m) (y.runOn n)
  settles : (∃ k, ∀ spare, k ≤ spare → pace.guard ((x spare).runOn m).2.past) →
    (y.runOn n).1 ≠ .error .unfinished → Settles x m

namespace Abreast

variable {pace : Pace S} {E E' : Machine W I S → Machine W I S → Prop}
  {Q Q' : α → Machine W I S → Machine W I S → Prop} {x : Nat → Action W I S α}
  {y : Action W I S α} {m n : Machine W I S}

theorem imp (h : Abreast pace E x y Q m n) (hQ : ∀ a m n, Q a m n → Q' a m n)
    (hE : ∀ m n, E m n → E' m n) : Abreast pace E' x y Q' m n :=
  ⟨fun spare hguard => (h.agree spare hguard).imp hQ hE, h.settles⟩

/-- An action that ends here is abreast of one that does the same. -/
theorem of_agree {x : Action W I S α} (hended : (x.runOn m).1 ≠ .error .unfinished)
    (h : pace.guard (x.runOn m).2.past →
      ∀ spare, pace.Agree spare Q E (x.runOn m) (y.runOn n)) :
    Abreast pace E (fun _ => x) y Q m n :=
  ⟨fun spare hguard => h hguard spare, fun _ _ => .of_ended hended⟩

/-- Only what the right action does here matters. -/
theorem of_run_eq {y' : Action W I S α} (hrun : y.runOn n = y'.runOn n)
    (h : Abreast pace E x y' Q m n) : Abreast pace E x y Q m n :=
  ⟨fun spare hguard => hrun ▸ h.agree spare hguard, fun hguard hend =>
    h.settles hguard (hrun ▸ hend)⟩

/-- Both actions go on from what they find. -/
theorem get {f : Nat → Machine W I S → Action W I S α} {g : Machine W I S → Action W I S α}
    (h : Abreast pace E (fun spare => f spare m) (g n) Q m n) :
    Abreast pace E (fun spare => get >>= f spare) (get >>= g) Q m n := by
  refine ⟨fun spare hguard => ?_, fun hguard hend => ?_⟩
  · rw [run_bind, run_get] at hguard
    rw [run_bind, run_get, run_bind, run_get]
    exact h.agree spare hguard
  · simp only [run_bind, run_get] at hguard hend
    obtain ⟨outcome, need, hne, hsame⟩ := h.settles hguard hend
    refine ⟨outcome, need, hne, fun spare hspare => ?_⟩
    rw [run_bind, run_get]
    exact hsame spare hspare

/-- Failures that are caught by `attempt` are the same, too. -/
theorem attempt (hx : Abreast pace E x y (fun _ => E) m n) :
    Abreast pace E (fun spare => attempt (x spare)) (attempt y) (fun _ => E) m n := by
  refine ⟨fun spare hguard => ?_, ?_⟩
  · rw [leaves_attempt] at hguard
    have h := hx.agree spare hguard
    rw [run_attempt, run_attempt]
    generalize (x spare).runOn m = o at h
    generalize y.runOn n = o' at h
    cases h with
    | returned h => exact .returned h
    | @halted halt m n h =>
      cases halt with
      | failed cause => exact .returned h
      | unfinished => exact .halted h
    | behind hextra => exact .behind hextra
    | ahead hspare => exact .ahead hspare
  · rintro ⟨k, hguard⟩ hend
    simp only [leaves_attempt] at hguard
    obtain ⟨outcome, need, hne, hsettled⟩ :=
      hx.settles ⟨k, hguard⟩ fun h => hend ((unfinished_attempt y n).2 h)
    refine ⟨(Action.attempt (x need)).runOn m, need, fun h => hne ?_, fun spare hspare => ?_⟩
    · rw [← hsettled need (Nat.le_refl need)]
      exact (unfinished_attempt _ m).1 h
    · rw [run_attempt, run_attempt, hsettled spare hspare, hsettled need (Nat.le_refl need)]

/-- What the left action does is part of what is left by it. -/
theorem grown (h : Abreast pace E x y Q m n) (hgrows : ∀ spare, (x spare).Grows) :
    Abreast pace E x y (fun a m' n' => Q a m' n' ∧ m.Grows m') m n := by
  refine ⟨fun spare hguard => ?_, h.settles⟩
  have hagree := h.agree spare hguard
  have hm := hgrows spare m
  generalize (x spare).runOn m = o at hagree hm
  generalize y.runOn n = o' at hagree
  cases hagree with
  | returned hQ => exact .returned ⟨hQ, hm⟩
  | halted hE => exact .halted hE
  | behind hextra => exact .behind hextra
  | ahead hspare => exact .ahead hspare

/-- The left action needs some spare turns, and then goes on from `m₁` as another one does. -/
theorem delay (m₁ : Machine W I S) (z : Nat → Action W I S α) (k : Nat)
    (hgrows : ∀ spare, k ≤ spare → m₁.Grows ((x spare).runOn m).2)
    (h : pace.guard m₁.past → Abreast pace E z y Q m₁ n ∧
      ∀ spare, k ≤ spare → (x spare).runOn m = (z spare).runOn m₁)
    (hearly : ∀ spare, spare < k → ∃ m', (x spare).runOn m = (.error .unfinished, m'))
    (hextra : 0 < k → ∃ o, pace.extra o = true) : Abreast pace E x y Q m n := by
  refine ⟨fun spare hguard => ?_, ?_⟩
  · by_cases hspare : k ≤ spare
    · obtain ⟨hrest, hlate⟩ := h (pace.guard_of_grows (hgrows spare hspare) hguard)
      rw [hlate spare hspare] at hguard ⊢
      exact hrest.agree spare hguard
    · obtain ⟨m', hrun⟩ := hearly spare (by omega)
      obtain ⟨o, ho⟩ := hextra (by omega)
      rw [hrun]
      exact .behind ho
  · rintro ⟨k', hguard⟩ hend
    obtain ⟨hrest, hlate⟩ := h (pace.guard_of_grows (hgrows _ (Nat.le_max_left k k'))
      (hguard _ (Nat.le_max_right k k')))
    obtain ⟨outcome, need, hne, hsettled⟩ := hrest.settles ⟨max k k', fun spare hspare => by
      rw [← hlate spare (by omega)]
      exact hguard spare (by omega)⟩ hend
    refine ⟨outcome, max k need, hne, fun spare hspare => ?_⟩
    rw [hlate spare (by omega)]
    exact hsettled spare (by omega)

end Abreast

/-- From all machines that go together as `P` says, the actions run `Abreast`. -/
structure InStep (pace : Pace S) (E P : Machine W I S → Machine W I S → Prop)
    (x : Nat → Action W I S α) (y : Action W I S α)
    (Q : α → Machine W I S → Machine W I S → Prop) : Prop where
  grows : ∀ spare, (x spare).Grows
  abreast : ∀ m n, P m n → Abreast pace E x y Q m n

section

variable {pace : Pace S} {E P : Machine W I S → Machine W I S → Prop} {x : Nat → Action W I S α}
  {y : Action W I S α} {R : α → Machine W I S → Machine W I S → Prop}
  {Q : β → Machine W I S → Machine W I S → Prop} {f : Nat → α → Action W I S β}
  {g : α → Action W I S β}

theorem Abreast.bind {m n : Machine W I S} (hx : Abreast pace E x y R m n)
    (hf : ∀ a, InStep pace E (R a) (fun spare => f spare a) (g a) Q) :
    Abreast pace E (fun spare => x spare >>= f spare) (y >>= g) Q m n := by
  have hfirst : ∀ spare, pace.guard ((x spare >>= f spare).runOn m).2.past →
      pace.guard ((x spare).runOn m).2.past := fun spare =>
    pace.guard_of_grows (Grows.bind_left (fun a => (hf a).grows spare) m)
  refine ⟨fun spare hguard => ?_, ?_⟩
  · refine (hx.agree spare (hfirst spare hguard)).bind fun a m' n' hrun hR => ?_
    rw [run_bind, hrun] at hguard
    exact ((hf a).abreast m' n' hR).agree spare hguard
  · rintro ⟨k, hguard⟩ hend
    have hended := ended_of_bind hend
    obtain ⟨outcome, need, hne, hsettled⟩ :=
      hx.settles ⟨k, fun spare hk => hfirst spare (hguard spare hk)⟩ hended
    -- From here on the first action comes to the same, whatever the number of spare turns.
    have hsame := hx.agree (max k need) (hfirst _ (hguard _ (Nat.le_max_left k need)))
    rw [hsettled _ (Nat.le_max_right k need)] at hsame
    rw [run_bind] at hend
    generalize y.runOn n = o' at hsame hend hended
    cases hsame with
    | @returned a m' n' hR =>
      obtain ⟨result, need', hne', hrest⟩ := ((hf a).abreast m' n' hR).settles
        ⟨max k need, fun spare hspare => by
          have hthen := hguard spare (by omega)
          rwa [run_bind, hsettled spare (by omega)] at hthen⟩ hend
      refine ⟨result, max need need', hne', fun spare hspare => ?_⟩
      rw [run_bind, hsettled spare (by omega)]
      exact hrest spare (by omega)
    | @halted halt m' n' hE =>
      refine ⟨(.error halt, m'), need, fun h => hended ?_, fun spare hspare => ?_⟩
      · obtain rfl := Except.error.inj h
        rfl
      · rw [run_bind, hsettled spare hspare]
    | behind hextra => exact absurd rfl hne
    | ahead hspare => exact absurd rfl hended

theorem InStep.bind (hx : InStep pace E P x y R)
    (hf : ∀ a, InStep pace E (R a) (fun spare => f spare a) (g a) Q) :
    InStep pace E P (fun spare => x spare >>= f spare) (y >>= g) Q :=
  ⟨fun spare => (hx.grows spare).bind fun a => (hf a).grows spare, fun m n hP =>
    (hx.abreast m n hP).bind hf⟩

end

namespace InStep

variable {pace : Pace S} {E E' P P' : Machine W I S → Machine W I S → Prop}
  {Q Q' : α → Machine W I S → Machine W I S → Prop} {x : Nat → Action W I S α}
  {y : Action W I S α}

theorem imp (h : InStep pace E P x y Q) (hP : ∀ m n, P' m n → P m n)
    (hQ : ∀ a m n, Q a m n → Q' a m n) (hE : ∀ m n, E m n → E' m n) :
    InStep pace E' P' x y Q' :=
  ⟨h.grows, fun m n hm => (h.abreast m n (hP m n hm)).imp hQ hE⟩

theorem pure (a : α) (h : ∀ m n, P m n → Q a m n) :
    InStep pace E P (fun _ => (pure a : Action W I S α)) (pure a) Q :=
  ⟨fun _ => .pure a, fun m n hP => .of_agree (fun h => nomatch h) fun _ _ => .returned (h m n hP)⟩

theorem fail (cause : Failure) (h : ∀ m n, P m n → E m n) :
    InStep pace E P (fun _ => (Action.fail cause : Action W I S α)) (Action.fail cause) Q :=
  ⟨fun _ => .fail cause, fun m n hP => .of_agree (fun h => nomatch h) fun _ _ => .halted (h m n hP)⟩

/-- Both actions go on from what they find. -/
theorem get {f : Nat → Machine W I S → Action W I S α} {g : Machine W I S → Action W I S α}
    (h : ∀ m n, P m n → InStep pace E P (fun spare => f spare m) (g n) Q)
    (hgrows : ∀ spare m, (f spare m).Grows) :
    InStep pace E P (fun spare => get >>= f spare) (get >>= g) Q :=
  ⟨fun spare => .bind .get (hgrows spare), fun m n hP => ((h m n hP).abreast m n hP).get⟩

/-- Both actions return from every machine, and what they return is the same. -/
theorem of_run {x : Action W I S α} {f g : Machine W I S → Machine W I S} {a : α}
    (hx : ∀ m, x.runOn m = (.ok a, f m)) (hy : ∀ n, y.runOn n = (.ok a, g n)) (hgrows : x.Grows)
    (h : ∀ m n, P m n → pace.guard (f m).past → Q a (f m) (g n)) :
    InStep pace E P (fun _ => x) y Q := by
  refine ⟨fun _ => hgrows, fun m n hP => .of_agree ?_ fun hguard spare => ?_⟩
  · rw [hx]
    exact fun h => nomatch h
  · rw [hx] at hguard
    rw [hx, hy]
    exact .returned (h m n hP hguard)

/-- What holds of an action that is `InStep` with itself holds of the action. -/
theorem leads {K K' : Machine W I S → Prop} {J : α → Machine W I S → Prop} {x : Action W I S α}
    (h : InStep .free (fun m n => n = m ∧ K' m) (fun m n => n = m ∧ K m) (fun _ => x) x
      fun a m n => n = m ∧ J a m) : Leads K x J fun _ => K' := by
  intro m hK
  have hagree := (h.abreast m m ⟨rfl, hK⟩).agree 0 trivial
  generalize x.runOn m = o at hagree
  cases hagree with
  | returned hJ => exact hJ.2
  | halted hK' => exact hK'.2
  | behind hextra => cases hextra
  | ahead hspare => exact absurd hspare (Nat.lt_irrefl 0)

/-- What the left action does by itself is known besides. -/
theorem along {K K' : Machine W I S → Prop} {J : α → Machine W I S → Prop}
    (h : InStep pace E P x y Q) (hx : ∀ spare, Leads K (x spare) J fun _ => K') :
    InStep pace (fun m n => E m n ∧ K' m) (fun m n => P m n ∧ K m) x y
      fun a m n => Q a m n ∧ J a m := by
  refine ⟨h.grows, fun m n hP => ⟨fun spare hguard => ?_, (h.abreast m n hP.1).settles⟩⟩
  have hagree := (h.abreast m n hP.1).agree spare hguard
  have hafter := hx spare m hP.2
  generalize (x spare).runOn m = o at hagree hafter
  generalize y.runOn n = o' at hagree
  cases hagree with
  | returned hQ => exact .returned ⟨hQ, hafter⟩
  | halted hE => exact .halted ⟨hE, hafter⟩
  | behind hextra => exact .behind hextra
  | ahead hspare => exact .ahead hspare

/-- Failures that are caught are the same, too. -/
theorem attempt (hx : InStep pace E P x y fun _ => E) :
    InStep pace E P (fun spare => attempt (x spare)) (attempt y) fun _ => E :=
  ⟨fun spare => (hx.grows spare).attempt, fun m n hP => (hx.abreast m n hP).attempt⟩

end InStep

end Action

/-! ## Programs that do the same -/

/-- The programs do the same where they see the same. The left one may `add` extra observers, and
    neither may `read` what an extra observer has recorded. -/
inductive Program.Matches (extra : ObserverId → Bool) : Program W S α → Program W S α → Prop
  | done (a : α) : Matches extra (.done a) (.done a)
  | fail (cause : Failure) : Matches extra (.fail cause) (.fail cause)
  | look {next next' : View S → W → Program W S α}
      (h : ∀ seen world, Matches extra (next seen world) (next' seen world)) :
      Matches extra (.look next) (.look next')
  | read {o : ObserverId} {next next' : Trajectory → Program W S α} (ho : extra o = false)
      (h : ∀ trajectory, Matches extra (next trajectory) (next' trajectory)) :
      Matches extra (.read o next) (.read o next')
  | perform {x : Hook W S Value} {next next' : Except Failure Value → Program W S α}
      (h : ∀ outcome, Matches extra (next outcome) (next' outcome)) :
      Matches extra (.perform x next) (.perform x next')
  | call {c : Call} {next next' : Except Failure Unit → Program W S α}
      (hc : ∀ o, c = .observe o → extra o = false)
      (h : ∀ outcome, Matches extra (next outcome) (next' outcome)) :
      Matches extra (.call c next) (.call c next')
  | add {o : ObserverId} {next : Except Failure Unit → Program W S α} {p : Program W S α}
      (ho : extra o = true) (h : Matches extra (next (.ok ())) p) :
      Matches extra (.call (.observe o) next) p

namespace Program.Matches

variable {extra : ObserverId → Bool}

theorem bind {p p' : Program W S α} {f f' : α → Program W S β} (h : p.Matches extra p')
    (hf : ∀ a, (f a).Matches extra (f' a)) : (p >>= f).Matches extra (p' >>= f') := by
  induction h with
  | done a => exact hf a
  | fail cause => exact .fail cause
  | look _ ih => exact .look ih
  | read ho _ ih => exact .read ho ih
  | perform _ ih => exact .perform ih
  | call hc _ ih => exact .call hc ih
  | add ho _ ih => exact .add ho ih

/-- The same call is made. -/
theorem calling {c : Call} (hc : ∀ o, c = .observe o → extra o = false) :
    (Program.calling c : Program W S Unit).Matches extra (Program.calling c) :=
  .call hc fun outcome => match outcome with
    | .ok a => .done a
    | .error cause => .fail cause

end Program.Matches

/-- The observers do the same when they are told the same. -/
inductive Observer.Matches (extra : ObserverId → Bool) : Observer W S → Observer W S → Prop
  | silent : Matches extra .silent .silent
  | recorder : Matches extra .recorder .recorder
  | custom {react react' : News S → Program W S Unit}
      (h : ∀ news, (react news).Matches extra (react' news)) :
      Matches extra (.custom react) (.custom react')

/-- Whoever is known to both casts does the same. -/
structure Cast.Matches (extra : ObserverId → Bool) (cast cast' : Cast W S) : Prop where
  observer : ∀ o, extra o = false → (cast.observer o).Matches extra (cast'.observer o)
  stop : ∀ stop, (cast.stop stop).Matches extra (cast'.stop stop)

/-- Without extra observers every program does the same as itself. -/
theorem Program.Matches.refl (p : Program W S α) : p.Matches (fun _ => false) p := by
  induction p with
  | done a => exact .done a
  | fail cause => exact .fail cause
  | look next ih => exact .look ih
  | read o next ih => exact .read rfl ih
  | perform x next ih => exact .perform ih
  | call c next ih => exact .call (fun _ _ => rfl) ih

theorem Cast.Matches.refl (cast : Cast W S) : cast.Matches (fun _ => false) cast := by
  refine ⟨fun o _ => ?_, fun stop => .refl _⟩
  cases cast.observer o with
  | silent => exact .silent
  | recorder => exact .recorder
  | custom react => exact .custom fun news => .refl _

end HillClimb
