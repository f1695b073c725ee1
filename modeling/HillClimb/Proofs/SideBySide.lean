import HillClimb.Proofs.InStep
import HillClimb.Proofs.Lasting

set_option autoImplicit false

/-! # Invariants of two searches

What is claimed of two searches that are called alike is proved here once for all calls, however
they nest and fail. It is enough that the relation between the two survives every single thing that
befalls them (`Solver.Paired`). Then calls that are served alike keep it (`Paired.serve`), and so do
programs that do the same (`Paired.play`).

Most of the work is in the rounds of news, where the left search also tells its extra observers
(`Paired.round_extra`, `Paired.round_common`). `Program.outcome` is what comes of a program. -/

namespace HillClimb

variable {W S α : Type} [Candidate S]

/-! ## What only grows -/

/-- Whatever befalls a search, its history and its list of observers only grow. -/
theorem LocalSearch.lasting_grows (m₀ : Machine W (LocalSearch W S) S) :
    LocalSearch.Lasting fun m => m₀.Grows m where
  aside _ _ h ha := h.trans (.of_unseen (.of_aside ha))
  recorded _ _ h := ⟨h.past, h.observers⟩
  glimpsed m entry _ h := h.trans (.of_past rfl (m.past_glimpsed entry))
  observed m o h := by
    refine ⟨h.past, h.observers.trans ?_⟩
    show m.solver.observers.toList <+: (m.solver.observers.push o).toList
    rw [Array.toList_push]
    exact List.prefix_append _ _
  overwritten m n h := h.trans (.of_past rfl (m.past_overwritten n))
  entered _ _ h hm := h.trans (.of_unseen hm.unseen)
  strode _ _ h hm := h.trans (.of_unseen hm.unseen)

namespace Action.Grows

variable {x : Call → Action W (LocalSearch W S) S Unit} {cast : Cast W S}

omit [Candidate S] in
theorem of_keeps {y : Action W (LocalSearch W S) S α}
    (h : ∀ m₀ : Machine W (LocalSearch W S) S, Keeps (m₀.Grows ·) (m₀.Grows ·) y) : Grows y :=
  fun m => (h m).leaves (fun _ hm => hm) (.refl m)

omit [Candidate S] in
theorem keeps {y : Action W (LocalSearch W S) S α} (h : Grows y)
    (m₀ : Machine W (LocalSearch W S) S) : Keeps (m₀.Grows ·) (m₀.Grows ·) y :=
  fun m hm => after_of_all (hm.trans (h m))

theorem stride : Grows (Solver.stride (LocalSearch.method (W := W) (S := S))) :=
  .of_keeps fun m₀ => (LocalSearch.lasting_grows m₀).keeps_stride

theorem play (hx : ∀ c, Grows (x c)) (p : Program W S α) :
    Grows (p.play LocalSearch.method x) :=
  .of_keeps fun m₀ => (LocalSearch.lasting_grows m₀).harmless.play (fun c => (hx c).keeps m₀) p

theorem notify (hx : ∀ c, Grows (x c)) (cast : Cast W S) (news : News S) (place : Nat)
    (o : ObserverId) : Grows (Solver.notify LocalSearch.method cast x news place o) :=
  .of_keeps fun m₀ =>
    (LocalSearch.lasting_grows m₀).keeps_notify cast (fun c => (hx c).keeps m₀) news place o

theorem round (hx : ∀ c, Grows (x c)) (cast : Cast W S) (news : News S) (fuel place : Nat) :
    Grows (Solver.round LocalSearch.method cast x news fuel place) := by
  refine .of_keeps fun m₀ => ?_
  have hupheld := (LocalSearch.lasting_grows m₀).upheld cast
  cases place with
  | zero => exact hupheld.round_zero (fun c => (hx c).keeps m₀) news fuel
  | succ place => exact hupheld.round_succ (fun c => (hx c).keeps m₀) news fuel place

theorem laps (hx : ∀ c, Grows (x c)) (cast : Cast W S) (stop : StopId) (limit : Option Value)
    (bound fuel count : Nat) :
    Grows (Solver.laps LocalSearch.method cast x stop limit bound fuel count) :=
  .of_keeps fun m₀ => ((LocalSearch.lasting_grows m₀).upheld cast).laps
    (fun c => (hx c).keeps m₀) stop limit bound fuel count

theorem serve (cast : Cast W S) (fuel : Nat) (c : Call) :
    Grows (Solver.serve LocalSearch.method cast fuel c) :=
  .of_keeps fun m₀ => ((LocalSearch.lasting_grows m₀).upheld cast).serve fuel c

end Action.Grows

/-! ## Pairs of searches -/

/-- A common observer stands at these places of the two lists; extra ones may stand before it in the
    left one. -/
structure Pace.Place (pace : Pace S) (m : Machine W (LocalSearch W S) S) (place place' : Nat)
    (o : ObserverId) : Prop where
  listed : m.solver.observers[place]? = some o
  common : pace.extra o = false
  place : place' = (pace.common (m.solver.observers.toList.take place)).length

namespace Pace

variable (pace : Pace S)

omit [Candidate S] in
theorem common_take_le (l : List ObserverId) (place : Nat) :
    (pace.common (l.take place)).length ≤ place :=
  (List.length_filter_le _ _).trans (List.length_take_le _ _)

omit [Candidate S] in
/-- A place that is passed counts in the right search if a common observer stands there. -/
theorem common_take_succ {l : List ObserverId} {place : Nat} {o : ObserverId}
    (ho : l[place]? = some o) :
    (pace.common (l.take (place + 1))).length
      = (pace.common (l.take place)).length + if pace.extra o then 0 else 1 := by
  rw [List.take_add_one, ho, common, List.filter_append, List.length_append, common]
  cases hextra : pace.extra o <;> simp [hextra]

omit [Candidate S] in
/-- The list of the right search goes on where that of the left one does. -/
theorem common_listed {m n : Machine W (LocalSearch W S) S}
    (hobservers : n.solver.observers.toList = pace.common m.solver.observers.toList)
    (place : Nat) :
    n.solver.observers[(pace.common (m.solver.observers.toList.take place)).length]?
      = (pace.common (m.solver.observers.toList.drop place)).head? := by
  have hsplit : pace.common m.solver.observers.toList
      = pace.common (m.solver.observers.toList.take place)
        ++ pace.common (m.solver.observers.toList.drop place) := by
    rw [common, common, common, ← List.filter_append, List.take_append_drop]
  rw [← Array.getElem?_toList, hobservers, hsplit,
    List.getElem?_append_right (Nat.le_refl _), Nat.sub_self, List.head?_eq_getElem?]

omit [Candidate S] in
/-- Where fewer common observers were passed than observers, an extra one was. -/
theorem exists_extra {m : Machine W (LocalSearch W S) S} {place : Nat}
    (hplace : place ≤ m.solver.observers.size)
    (hless : (pace.common (m.solver.observers.toList.take place)).length < place) :
    ∃ o, pace.extra o = true := by
  by_contra hnone
  have hall : ∀ o, pace.extra o = false := by simpa using hnone
  have hlength : (m.solver.observers.toList.take place).length = place := by
    rw [List.length_take]
    exact Nat.min_eq_left (by simpa using hplace)
  simp [common, hall] at hless
  omega

end Pace

omit [Candidate S] in
/-- Places that were passed stay passed. -/
theorem Machine.Grows.take {m m' : Machine W (LocalSearch W S) S} (h : m.Grows m') {place : Nat}
    (hplace : place ≤ m.solver.observers.size) :
    m'.solver.observers.toList.take place = m.solver.observers.toList.take place ∧
      place ≤ m'.solver.observers.size := by
  obtain ⟨rest, hrest⟩ := h.observers
  refine ⟨?_, hplace.trans ?_⟩
  · rw [← hrest, List.take_append_of_le_length (by simpa using hplace)]
  · simpa using congrArg List.length hrest |>.le.trans' (by simp)

omit [Candidate S] in
/-- Without extra observers, all places are the same. -/
theorem Pace.Place.eq {pace : Pace S} {m : Machine W (LocalSearch W S) S} {place place' : Nat}
    {o : ObserverId} (h : pace.Place m place place' o) (hnone : ∀ o, pace.extra o = false) :
    place' = place := by
  obtain ⟨hin, -⟩ := Array.getElem?_eq_some_iff.1 h.listed
  rw [h.place]
  simp [Pace.common, hnone]
  omega

namespace Solver

/-- A relation `R` of two searches that calls keep, and a relation `B` that holds while a program is
    busy between its calls. The news of a transition are told as long as they are `due`. -/
structure Paired (pace : Pace S) (cast cast' : Cast W S)
    (R B : Machine W (LocalSearch W S) S → Machine W (LocalSearch W S) S → Prop)
    (due : News S → Machine W (LocalSearch W S) S → Prop) : Prop where
  casts : cast.Matches pace.extra cast'
  rest : ∀ m n, B m n → R m n
  world : ∀ m n, B m n → m.world = n.world
  phase : ∀ m n, R m n → m.solver.phase = n.solver.phase
  observers : ∀ m n, R m n →
    n.solver.observers.toList = pace.common m.solver.observers.toList
  view : ∀ m n, B m n →
    LocalSearch.method.view n.solver = LocalSearch.method.view m.solver
  recording : ∀ m n o, pace.extra o = false → B m n → pace.guard (m.glimpsed (.read o)).past →
    n.recordings.of o = m.recordings.of o
  looked : ∀ m n, B m n → B (m.glimpsed .looked) (n.glimpsed .looked)
  read : ∀ m n o, pace.extra o = false → B m n → B (m.glimpsed (.read o)) (n.glimpsed (.read o))
  resumed : ∀ m n, R m n → B (m.glimpsed .resumed) (n.glimpsed .resumed)
  stopAsked : ∀ m n, R m n → B (m.glimpsed .stopAsked) (n.glimpsed .stopAsked)
  hook : ∀ h : Hook W S Value,
    Action.InStep pace B B (fun _ => Action.hook h) (Action.hook h) fun _ => B
  enter : Action.InStep pace R R (fun _ => Solver.enter LocalSearch.method)
    (Solver.enter LocalSearch.method) fun news m n => R m n ∧ due news m
  stride : Action.InStep pace R R (fun _ => Solver.stride LocalSearch.method)
    (Solver.stride LocalSearch.method) fun news m n => R m n ∧ due news m
  pending : ∀ news m m', due news m → m.Grows m' → due news m'
  silent : ∀ m n news place place' o, cast.observer o = .silent → pace.Place m place place' o →
    R m n → R (m.glimpsed (.notified place o news)) (n.glimpsed (.notified place' o news))
  recorder : ∀ m n news place place' o, cast.observer o = .recorder →
    pace.Place m place place' o → due news m → R m n →
    ∀ outcome outcome', (Action.record LocalSearch.method o news).runOn
        (m.glimpsed (.notified place o news)) = outcome →
      (Action.record LocalSearch.method o news).runOn
        (n.glimpsed (.notified place' o news)) = outcome' →
      pace.guard outcome.2.past → outcome'.1 = outcome.1 ∧ R outcome.2 outcome'.2
  custom : ∀ m n news place place' o react, cast.observer o = .custom react →
    pace.Place m place place' o → R m n →
    B (m.glimpsed (.notified place o news)) (n.glimpsed (.notified place' o news))
  extra : ∀ m n news place o, pace.extra o = true → due news m → R m n →
    ∃ outcome, (∀ nested, (notify LocalSearch.method cast nested news place o).runOn m = outcome) ∧
      (pace.guard outcome.2.past → outcome.1 = .ok () ∧
        outcome.2.solver.observers = m.solver.observers ∧ R outcome.2 n)
  added : ∀ m n o, pace.extra o = true → B m n → B ((m.observed o).glimpsed .resumed) n
  logged : ∀ m n text text', R m n → R (m.logged text) (n.logged text')
  observed : ∀ m n o, pace.extra o = false → R m n → R (m.observed o) (n.observed o)
  overwritten : ∀ m n k, R m n → R (m.overwritten k) (n.overwritten k)

/-- Calls that both searches know are served in step. A call that adds an extra observer to the left
    search does just that, unless no turns are left. -/
structure Served (pace : Pace S)
    (R : Machine W (LocalSearch W S) S → Machine W (LocalSearch W S) S → Prop)
    (x : Nat → Call → Action W (LocalSearch W S) S Unit)
    (y : Call → Action W (LocalSearch W S) S Unit) : Prop where
  common : ∀ c, (∀ o, c = .observe o → pace.extra o = false) →
    Action.InStep pace R R (fun spare => x spare c) (y c) fun _ => R
  extra : ∀ o, pace.extra o = true → ∃ k, ∀ spare m, (x spare (.observe o)).runOn m
    = if k ≤ spare then (.ok (), m.observed o) else (.error .unfinished, m)

section

variable {pace : Pace S} {R : Machine W (LocalSearch W S) S → Machine W (LocalSearch W S) S → Prop}
  {x : Nat → Call → Action W (LocalSearch W S) S Unit}
  {y : Call → Action W (LocalSearch W S) S Unit}

theorem Served.grows (hs : Served pace R x y) (spare : Nat) (c : Call) : (x spare c).Grows := by
  by_cases hc : ∀ o, c = .observe o → pace.extra o = false
  · exact (hs.common c hc).grows spare
  · push Not at hc
    obtain ⟨o, rfl, ho⟩ := hc
    intro m
    obtain ⟨k, hrun⟩ := hs.extra o (by simpa using ho)
    rw [hrun]
    split
    · exact (LocalSearch.lasting_grows m).observed m o (.refl m)
    · exact .refl m

end

namespace Paired

variable {pace : Pace S} {cast cast' : Cast W S}
  {R B : Machine W (LocalSearch W S) S → Machine W (LocalSearch W S) S → Prop}
  {due : News S → Machine W (LocalSearch W S) S → Prop}
  {x : Nat → Call → Action W (LocalSearch W S) S Unit}
  {y : Call → Action W (LocalSearch W S) S Unit}

/-! ## Programs -/

/-- Programs that do the same (`Program.Matches`) keep what their calls keep. -/
theorem play_of_served (h : Paired pace cast cast' R B due) (hs : Served pace R x y)
    {p p' : Program W S α} (hp : p.Matches pace.extra p') :
    Action.InStep pace R B (fun spare => p.play LocalSearch.method (x spare))
      (p'.play LocalSearch.method y) fun _ => R := by
  induction hp with
  | done a => exact .pure a h.rest
  | fail cause => exact .fail cause h.rest
  | @look next next' _ ih =>
    simp only [Program.play]
    have hlook : Action.InStep pace R B
        (fun _ => (LocalSearch.method.noteSeen .looked : Action W (LocalSearch W S) S Unit))
        (LocalSearch.method.noteSeen .looked) fun _ => B :=
      .of_run (fun _ => rfl) (fun _ => rfl) (.noteSeen _ _) fun m n hB _ => h.looked m n hB
    refine hlook.bind fun _ => .get (fun m n hB => ?_) fun spare m => .play (hs.grows spare) _
    rw [← h.world m n hB, h.view m n hB]
    exact (ih _ _).imp (fun _ _ hB => hB) (fun _ _ _ hR => hR) fun _ _ hR => hR
  | @read o next next' ho _ ih =>
    simp only [Program.play]
    -- What the two programs read is the same, so they go on alike.
    have hread : Action.InStep pace R B
        (fun _ => (LocalSearch.method.noteSeen (.read o) : Action W (LocalSearch W S) S Unit))
        (LocalSearch.method.noteSeen (.read o)) fun _ m n =>
          B m n ∧ n.recordings.of o = m.recordings.of o :=
      .of_run (fun _ => rfl) (fun _ => rfl) (.noteSeen _ _) fun m n hB hguard =>
        ⟨h.read m n o ho hB, h.recording m n o ho hB hguard⟩
    refine hread.bind fun _ => .get (fun m n hm => ?_) fun spare m => .play (hs.grows spare) _
    rw [hm.2]
    exact (ih _).imp (fun _ _ hm => hm.1) (fun _ _ _ hR => hR) fun _ _ hR => hR
  | @perform z next next' _ ih =>
    simp only [Program.play]
    exact ((h.hook z).attempt.imp (fun _ _ hm => hm) (fun _ _ _ hm => hm) h.rest).bind ih
  | @call c next next' hc _ ih =>
    simp only [Program.play]
    have hcall := (hs.common c hc).imp h.rest (fun _ _ _ hm => hm) fun _ _ hm => hm
    refine hcall.attempt.bind fun outcome => .bind ?_ fun _ => ih outcome
    exact .of_run (fun _ => rfl) (fun _ => rfl) (.noteSeen _ _) fun m n hR _ => h.resumed m n hR
  | @add o next p ho _ ih =>
    simp only [Program.play]
    refine ⟨fun spare => (hs.grows spare _).attempt.bind fun _ => .bind (.noteSeen _ _)
      fun _ => .play (hs.grows spare) _, fun m n hB => ?_⟩
    -- The call that the right program does not make changes nothing that matters to it.
    obtain ⟨k, hrun⟩ := hs.extra o ho
    have hthen : ∀ spare, k ≤ spare →
        (Action.attempt (x spare (.observe o)) >>= fun outcome =>
          LocalSearch.method.noteSeen .resumed >>= fun _ =>
            (next outcome).play LocalSearch.method (x spare)).runOn m
          = ((next (.ok ())).play LocalSearch.method (x spare)).runOn
              ((m.observed o).glimpsed .resumed) := by
      intro spare hspare
      rw [Action.run_bind, Action.run_attempt, hrun, if_pos hspare]
      rfl
    refine .delay _ _ k (fun spare hspare => ?_)
      (fun _ => ⟨ih.abreast _ n (h.added m n o ho hB), hthen⟩) (fun spare hspare => ⟨m, ?_⟩)
      fun _ => ⟨o, ho⟩
    · rw [hthen spare hspare]
      exact Action.Grows.play (hs.grows spare) _ _
    · rw [Action.run_bind, Action.run_attempt, hrun, if_neg (Nat.not_le.2 hspare)]

/-! ## Rounds -/

/-- A common observer that is told keeps the relation. -/
theorem notify (h : Paired pace cast cast' R B due) (hs : Served pace R x y) (news : News S)
    (place place' : Nat) (o : ObserverId) :
    Action.InStep pace R (fun m n => R m n ∧ pace.Place m place place' o ∧ due news m)
      (fun spare => Solver.notify LocalSearch.method cast (x spare) news place o)
      (Solver.notify LocalSearch.method cast' y news place' o) fun _ => R := by
  by_cases hcommon : pace.extra o = false
  swap
  · exact ⟨fun spare => .notify (hs.grows spare) cast news place o,
      fun _ _ hm => absurd hm.2.1.common hcommon⟩
  have hmatches := h.casts.observer o hcommon
  simp only [Solver.notify, react]
  generalize ho : cast.observer o = observer at hmatches
  generalize cast'.observer o = observer' at hmatches
  cases hmatches with
  | silent =>
    exact .of_run (fun _ => rfl) (fun _ => rfl) (.bind (.noteSeen _ _) fun _ => .pure _)
      fun m n hm _ => h.silent m n news place place' o ho hm.2.1 hm.1
  | recorder =>
    dsimp only
    refine ⟨fun _ => .bind (.noteSeen _ _) fun _ => .record _ _ _, fun m n hm =>
      .of_agree ?_ fun hguard spare => ?_⟩
    · rw [Action.run_bind, Action.run_noteSeen]
      exact Action.ended_record _ _ _ _
    · obtain ⟨hsame, hR⟩ := h.recorder m n news place place' o ho hm.2.1 hm.2.2 hm.1 _ _ rfl rfl
        hguard
      exact .of_eq hsame hR
  | custom hreact =>
    have htold : Action.InStep pace R (fun m n => R m n ∧ pace.Place m place place' o ∧ due news m)
        (fun _ => (LocalSearch.method.noteSeen (.notified place o news) :
          Action W (LocalSearch W S) S Unit))
        (LocalSearch.method.noteSeen (.notified place' o news)) fun _ => B :=
      .of_run (fun _ => rfl) (fun _ => rfl) (.noteSeen _ _) fun m n hm _ =>
        h.custom m n news place place' o _ ho hm.2.1 hm.1
    exact htold.bind fun _ => h.play_of_served hs (hreact news)

section

variable {nested : Call → Action W (LocalSearch W S) S Unit} {m : Machine W (LocalSearch W S) S}
  {place : Nat}

theorem run_round_none (h : m.solver.observers[place]? = none) (news : News S) (fuel : Nat) :
    (Solver.round LocalSearch.method cast nested news (fuel + 1) place).runOn m = (.ok (), m) := by
  rw [Solver.round, Action.run_bind, Action.run_get]
  simp only [h]
  rfl

theorem run_round_some {o : ObserverId} (h : m.solver.observers[place]? = some o) (news : News S)
    (fuel : Nat) :
    (Solver.round LocalSearch.method cast nested news (fuel + 1) place).runOn m
      = (Solver.notify LocalSearch.method cast nested news place o >>= fun _ =>
          Solver.round LocalSearch.method cast nested news fuel (place + 1)).runOn m := by
  rw [Solver.round, Action.run_bind, Action.run_get]
  simp only [h]

end

/-- A turn of the left search, if it has one left: a `delay` of its round. It has none if too many
    were used up. -/
theorem delay_round (news : News S) (fuel place : Nat) {place' : Nat}
    {m n : Machine W (LocalSearch W S) S} (hplace : place ≤ m.solver.observers.size)
    (hplace' : (pace.common (m.solver.observers.toList.take place)).length = place')
    (m₁ : Machine W (LocalSearch W S) S) (z : Nat → Action W (LocalSearch W S) S Unit)
    {z' : Action W (LocalSearch W S) S Unit}
    (hgrows : ∀ spare fuel, m₁.Grows
      ((Solver.round LocalSearch.method cast (x spare) news (fuel + 1) place).runOn m).2)
    (h : pace.guard m₁.past → Action.Abreast pace R z z' (fun _ => R) m₁ n ∧
      ∀ spare, place ≤ fuel + spare + place' →
        (Solver.round LocalSearch.method cast (x spare) news (fuel + spare + place' - place + 1)
          place).runOn m = (z spare).runOn m₁) :
    Action.Abreast pace R (fun spare => Solver.round LocalSearch.method cast (x spare) news
      (fuel + 1 + spare + place' - place) place) z' (fun _ => R) m n := by
  have hturn : ∀ spare, place - place' - fuel ≤ spare →
      fuel + 1 + spare + place' - place = fuel + spare + place' - place + 1 := by omega
  refine .delay m₁ z (place - place' - fuel) (fun spare hspare => ?_) (fun hguard => ?_)
    (fun spare hspare => ⟨m, ?_⟩) fun hless => pace.exists_extra hplace (by omega)
  · rw [hturn spare hspare]
    exact hgrows spare _
  · obtain ⟨hrest, hlate⟩ := h hguard
    refine ⟨hrest, fun spare hspare => ?_⟩
    rw [hturn spare hspare]
    exact hlate spare (by omega)
  · rw [show fuel + 1 + spare + place' - place = 0 by omega]
    rfl

section

variable {m n : Machine W (LocalSearch W S) S} {place' : Nat} {o : ObserverId}

/-- Both rounds are over. -/
theorem round_over (h : Paired pace cast cast' R B due) (news : News S) (fuel place : Nat)
    (hR : R m n) (hover : m.solver.observers.size = place)
    (hplace' : (pace.common (m.solver.observers.toList.take place)).length = place') :
    Action.Abreast pace R (fun spare => Solver.round LocalSearch.method cast (x spare) news
        (fuel + 1 + spare + place' - place) place)
      (Solver.round LocalSearch.method cast' y news (fuel + 1) place') (fun _ => R) m n := by
  have ho : m.solver.observers[place]? = none := by
    rw [Array.getElem?_eq_none_iff]
    omega
  have ho' : n.solver.observers[place']? = none := by
    rw [← hplace', pace.common_listed (h.observers m n hR) place,
      List.drop_eq_nil_of_le (by simp; omega)]
    rfl
  refine delay_round news fuel place hover.ge hplace' m (fun _ => pure ())
    (fun spare fuel => ?_) fun _ => ⟨.of_agree (fun h => nomatch h) fun _ _ => ?_, fun _ _ => ?_⟩
  · rw [run_round_none ho]
    exact .refl m
  · rw [run_round_none ho']
    exact .returned hR
  · exact run_round_none ho news _

/-- The right round goes without the turn of an extra observer. -/
theorem round_extra (h : Paired pace cast cast' R B due) (hs : Served pace R x y)
    (news : News S) (fuel place : Nat) (hR : R m n) (hdue : due news m)
    (ho : m.solver.observers[place]? = some o) (hextra : pace.extra o = true)
    (hplace' : (pace.common (m.solver.observers.toList.take place)).length = place')
    {z : Action W (LocalSearch W S) S Unit}
    (hrest : ∀ m', R m' n → due news m' → m'.solver.observers.size = m.solver.observers.size →
      (pace.common (m'.solver.observers.toList.take (place + 1))).length = place' →
      Action.Abreast pace R (fun spare => Solver.round LocalSearch.method cast (x spare) news
        (fuel + 1 + spare + place' - (place + 1)) (place + 1)) z (fun _ => R) m' n) :
    Action.Abreast pace R (fun spare => Solver.round LocalSearch.method cast (x spare) news
      (fuel + 1 + spare + place' - place) place) z (fun _ => R) m n := by
  have hsize : place + 1 ≤ m.solver.observers.size := (Array.getElem?_eq_some_iff.1 ho).1
  have hnext := pace.common_take_succ (l := m.solver.observers.toList)
    (by rwa [Array.getElem?_toList])
  rw [hplace'] at hnext
  simp only [hextra, if_pos, Nat.add_zero] at hnext
  obtain ⟨outcome, hsame, hkept⟩ := h.extra m n news place o hextra hdue hR
  have hgrows : m.Grows outcome.2 := by
    rw [← hsame (x 0)]
    exact Action.Grows.notify (hs.grows 0) cast news place o m
  refine delay_round news fuel place (Nat.le_of_succ_le hsize) hplace' outcome.2
    (fun spare => Solver.round LocalSearch.method cast (x spare) news
      (fuel + 1 + spare + place' - (place + 1)) (place + 1))
    (fun spare fuel => ?_) fun hguard => ?_
  · rw [← hsame (x spare), run_round_some ho]
    exact Action.Grows.bind_left (fun _ => .round (hs.grows spare) cast news _ _) m
  · obtain ⟨hok, hobservers, hR'⟩ := hkept hguard
    refine ⟨hrest _ hR' (h.pending news m _ hdue hgrows) (by rw [hobservers])
      (by rw [(hgrows.take hsize).1, hnext]), fun spare hspare => ?_⟩
    have hrun : outcome = (.ok (), outcome.2) := by rw [← hok]
    rw [run_round_some ho, Action.run_bind, hsame, hrun,
      show fuel + 1 + spare + place' - (place + 1) = fuel + spare + place' - place by omega]

/-- A common observer has its turn in both rounds. -/
theorem round_common (h : Paired pace cast cast' R B due) (hs : Served pace R x y)
    (news : News S) (fuel place : Nat) (hR : R m n) (hdue : due news m)
    (ho : m.solver.observers[place]? = some o) (hcommon : pace.extra o = false)
    (hplace' : (pace.common (m.solver.observers.toList.take place)).length = place')
    (hrest : ∀ m' n', R m' n' → due news m' → place + 1 ≤ m'.solver.observers.size →
      (pace.common (m'.solver.observers.toList.take (place + 1))).length = place' + 1 →
      Action.Abreast pace R (fun spare => Solver.round LocalSearch.method cast (x spare) news
          (fuel + spare + (place' + 1) - (place + 1)) (place + 1))
        (Solver.round LocalSearch.method cast' y news fuel (place' + 1)) (fun _ => R) m' n') :
    Action.Abreast pace R (fun spare => Solver.round LocalSearch.method cast (x spare) news
        (fuel + 1 + spare + place' - place) place)
      (Solver.round LocalSearch.method cast' y news (fuel + 1) place') (fun _ => R) m n := by
  obtain ⟨hsize, hat⟩ := Array.getElem?_eq_some_iff.1 ho
  have hnext := pace.common_take_succ (l := m.solver.observers.toList)
    (by rwa [Array.getElem?_toList])
  rw [hplace', hcommon, if_neg Bool.false_ne_true] at hnext
  have ho' : n.solver.observers[place']? = some o := by
    rw [← hplace', pace.common_listed (h.observers m n hR) place,
      List.drop_eq_getElem_cons (by simpa using hsize), Pace.common,
      List.filter_cons_of_pos (by simp [hat, hcommon])]
    simp [hat]
  have hlater : Action.InStep pace R (fun m' n' => R m' n' ∧ m.Grows m')
      (fun spare => Solver.round LocalSearch.method cast (x spare) news
        (fuel + spare + (place' + 1) - (place + 1)) (place + 1))
      (Solver.round LocalSearch.method cast' y news fuel (place' + 1)) fun _ => R := by
    refine ⟨fun spare => .round (hs.grows spare) cast news _ _, fun m' n' hm => ?_⟩
    obtain ⟨htake, hsize'⟩ := hm.2.take hsize
    exact hrest m' n' hm.1 (h.pending news m m' hdue hm.2) hsize' (by rw [htake, hnext])
  have htold := h.notify hs news place place' o
  refine delay_round news fuel place (Nat.le_of_succ_le hsize) hplace' m
    (fun spare => Solver.notify LocalSearch.method cast (x spare) news place o >>= fun _ =>
      Solver.round LocalSearch.method cast (x spare) news
        (fuel + spare + (place' + 1) - (place + 1)) (place + 1))
    (fun spare fuel => Action.Grows.round (hs.grows spare) cast news _ _ m)
    fun hguard => ⟨.of_run_eq (run_round_some ho' news fuel) ?_, fun spare hspare => ?_⟩
  · exact ((htold.abreast m n ⟨hR, ⟨ho, hcommon, hplace'.symm⟩, hdue⟩).grown htold.grows).bind
      fun _ => hlater
  · rw [run_round_some ho,
      show fuel + spare + (place' + 1) - (place + 1) = fuel + spare + place' - place by omega]

end

/-- A round from a place on keeps the relation. The left search has as many turns more as it was
    granted and has not used up for extra observers. The induction is on the turns of the right
    search, and within each of them on how many places are left. -/
theorem round_from (h : Paired pace cast cast' R B due) (hs : Served pace R x y)
    (news : News S) (fuel place : Nat) {m n : Machine W (LocalSearch W S) S} (hR : R m n)
    (hdue : due news m) (hplace : place ≤ m.solver.observers.size) {place' : Nat}
    (hplace' : (pace.common (m.solver.observers.toList.take place)).length = place') :
    Action.Abreast pace R (fun spare => Solver.round LocalSearch.method cast (x spare) news
        (fuel + spare + place' - place) place)
      (Solver.round LocalSearch.method cast' y news fuel place') (fun _ => R) m n := by
  induction fuel generalizing place place' m n with
  | zero =>
    have hle : place' ≤ place := hplace' ▸ pace.common_take_le _ place
    refine ⟨fun spare _ => ?_, fun _ hend => absurd rfl hend⟩
    cases spare with
    | succ spare => exact .ahead (Nat.succ_pos spare)
    | zero =>
      rw [show 0 + 0 + place' - place = 0 by omega]
      exact .halted hR
  | succ fuel ih =>
    -- Extra observers use up no turn of the right search, but there are only so many to come.
    induction hleft : m.solver.observers.size - place generalizing place m with
    | zero => exact h.round_over news fuel place hR (by omega) hplace'
    | succ left ihLeft =>
      obtain ⟨o, ho⟩ : ∃ o, m.solver.observers[place]? = some o :=
        ⟨_, Array.getElem?_eq_getElem (by omega)⟩
      cases hextra : pace.extra o with
      | true =>
        exact h.round_extra hs news fuel place hR hdue ho hextra hplace'
          fun m' hR' hdue' hsize hnext => ihLeft (place + 1) hR' hdue' (by omega) hnext (by omega)
      | false =>
        exact h.round_common hs news fuel place hR hdue ho hextra hplace'
          fun m' n' hR' hdue' hsize hnext => ih (place + 1) hR' hdue' hsize hnext

/-! ## Calls -/

/-- A round keeps the relation. -/
theorem round (h : Paired pace cast cast' R B due) (hs : Served pace R x y)
    (news : News S) (fuel : Nat) :
    Action.InStep pace R (fun m n => R m n ∧ due news m)
      (fun spare => Solver.round LocalSearch.method cast (x spare) news (fuel + spare) 0)
      (Solver.round LocalSearch.method cast' y news fuel 0) fun _ => R :=
  ⟨fun spare => .round (hs.grows spare) cast news _ 0, fun _ _ hm =>
    h.round_from hs news fuel 0 hm.1 hm.2 (Nat.zero_le _) rfl⟩

theorem begin (h : Paired pace cast cast' R B due) (hs : Served pace R x y) (fuel : Nat) :
    Action.InStep pace R R
      (fun spare => Solver.begin LocalSearch.method cast (x spare) (fuel + spare))
      (Solver.begin LocalSearch.method cast' y fuel) fun _ => R :=
  h.enter.bind fun news => h.round hs news fuel

theorem advance (h : Paired pace cast cast' R B due) (hs : Served pace R x y) (fuel : Nat) :
    Action.InStep pace R R
      (fun spare => Solver.advance LocalSearch.method cast (x spare) (fuel + spare))
      (Solver.advance LocalSearch.method cast' y fuel) fun _ => R :=
  h.stride.bind fun news => h.round hs news fuel

omit [Candidate S] in
/-- A limit is looked at alike. -/
theorem limitReached (limit : Option Value) (count : Nat) :
    Action.InStep pace R R
      (fun _ => (Solver.limitReached limit count : Action W (LocalSearch W S) S Bool))
      (Solver.limitReached limit count) fun _ => R := by
  unfold Solver.limitReached
  split
  · exact .pure _ fun _ _ hR => hR
  · split
    · exact .pure _ fun _ _ hR => hR
    · exact .fail _ fun _ _ hR => hR

theorem laps (h : Paired pace cast cast' R B due) (hs : Served pace R x y) (stop : StopId)
    (limit : Option Value) (bound fuel count : Nat) :
    Action.InStep pace R R
      (fun spare => Solver.laps LocalSearch.method cast (x spare) stop limit (bound + spare)
        (fuel + spare) count)
      (Solver.laps LocalSearch.method cast' y stop limit bound fuel count) fun _ => R := by
  induction fuel generalizing count with
  | zero =>
    refine ⟨fun spare => .laps (hs.grows spare) cast stop limit _ _ count, fun m n hR =>
      ⟨fun spare _ => ?_, fun _ hend => absurd rfl hend⟩⟩
    cases spare with
    | zero => exact .halted hR
    | succ spare => exact .ahead (Nat.succ_pos spare)
  | succ fuel ih =>
    simp only [Nat.add_right_comm fuel 1, Solver.laps]
    have hasked : Action.InStep pace R R
        (fun _ => (LocalSearch.method.noteSeen .stopAsked : Action W (LocalSearch W S) S Unit))
        (LocalSearch.method.noteSeen .stopAsked) fun _ => B :=
      .of_run (fun _ => rfl) (fun _ => rfl) (.noteSeen _ _) fun m n hR _ => h.stopAsked m n hR
    refine hasked.bind fun _ => (h.play_of_served hs (h.casts.stop stop)).bind fun stopped => ?_
    cases stopped with
    | true => exact .pure _ fun _ _ hR => hR
    | false =>
      refine (limitReached limit count).bind fun reached => ?_
      cases reached with
      | true => exact .pure _ fun _ _ hR => hR
      | false => exact (h.advance hs bound).bind fun _ => ih (count + 1)

theorem runUntil (h : Paired pace cast cast' R B due) (hs : Served pace R x y) (fuel : Nat)
    (stop : StopId) (limit : Option Value) :
    Action.InStep pace R R
      (fun spare => Solver.runUntil LocalSearch.method cast (x spare) (fuel + spare) stop limit)
      (Solver.runUntil LocalSearch.method cast' y fuel stop limit) fun _ => R := by
  have hlog : ∀ text text', Action.InStep pace R R
      (fun _ => (Action.log Level.info .lifecycle text [] : Action W (LocalSearch W S) S Unit))
      (Action.log Level.info .lifecycle text' []) fun _ => R := fun text text' =>
    .of_run (fun _ => rfl) (fun _ => rfl) (.beside (.log _ _ text [])) fun m n hR _ =>
      h.logged m n text text' hR
  have hexcursion : Action.InStep pace R R
      (fun spare => Solver.excursion LocalSearch.method cast (x spare) (fuel + spare) stop limit)
      (Solver.excursion LocalSearch.method cast' y fuel stop limit) fun _ => R :=
    .get (fun _ _ _ => (hlog _ _).bind fun _ => (h.laps hs stop limit fuel fuel 0).bind fun count =>
        .get (fun _ _ _ => hlog _ _) fun _ _ => .beside (.log _ _ _ _)) fun spare _ =>
      (Action.Grows.beside (.log _ _ _ _)).bind fun _ =>
        (Action.Grows.laps (hs.grows spare) cast stop limit _ _ 0).bind fun _ =>
          Action.Grows.get.bind fun _ => .beside (.log _ _ _ _)
  simp only [Solver.runUntil_eq]
  refine .get (fun m n hR => ?_) fun spare m => ?_
  · rw [← h.phase m n hR]
    by_cases hphase : m.solver.phase ≠ .ready
    · simp only [if_pos hphase]
      exact (h.begin hs fuel).bind fun _ => hexcursion
    · simp only [if_neg hphase]
      exact hexcursion
  · split
    · exact ((h.begin hs fuel).grows spare).bind fun _ => hexcursion.grows spare
    · exact hexcursion.grows spare

/-- Calls are `Served` in step, however deep they nest. The induction is on the fuel. -/
theorem serve (h : Paired pace cast cast' R B due) (fuel : Nat) :
    Served pace R (fun spare => Solver.serve LocalSearch.method cast (fuel + spare))
      (Solver.serve LocalSearch.method cast' fuel) := by
  -- The calls nested in one are served one level further down, in both searches.
  induction fuel with
  | zero =>
    refine ⟨fun c hc => ⟨fun spare => .serve cast _ c, fun m n hR =>
      ⟨fun spare _ => ?_, fun _ hend => absurd rfl hend⟩⟩, fun o ho => ⟨1, fun spare m => ?_⟩⟩
    · cases spare with
      | zero => exact .halted hR
      | succ spare => exact .ahead (Nat.succ_pos spare)
    · cases spare <;> rfl
  | succ fuel ih =>
    refine ⟨fun c hc => ?_, fun o ho => ⟨0, fun spare m => ?_⟩⟩
    · simp only [Nat.add_right_comm fuel 1]
      cases c with
      | start => exact h.begin ih fuel
      | step => exact h.advance ih fuel
      | run stop limit => exact h.runUntil ih fuel stop limit
      | observe o =>
        exact .of_run (fun _ => rfl) (fun _ => rfl) (.serve cast 1 (.observe o))
          fun m n hR _ => h.observed m n o (hc o rfl) hR
      | setStagnation k =>
        exact .of_run (fun _ => rfl) (fun _ => rfl) (.serve cast 1 (.setStagnation k))
          fun m n hR _ => h.overwritten m n k hR
    · rw [Nat.add_right_comm]
      rfl

/-- Programs that do the same keep the relation: what `play_of_served` says, for calls of
    `Solver.serve`. -/
theorem play (h : Paired pace cast cast' R B due) (fuel : Nat) {p p' : Program W S α}
    (hp : p.Matches pace.extra p') :
    Action.InStep pace R B
      (fun spare => p.play LocalSearch.method (Solver.serve LocalSearch.method cast (fuel + spare)))
      (p'.play LocalSearch.method (Solver.serve LocalSearch.method cast' fuel)) fun _ => R :=
  h.play_of_served (h.serve fuel) hp

end Paired

end Solver

/-- What comes of a program that calls a search by `Solver.serve`, within a bound on its turns. -/
def Program.outcome (caller : Program W S α) (cast : Cast W S)
    (m : Machine W (LocalSearch W S) S) (fuel : Nat) :
    Except Halt α × Machine W (LocalSearch W S) S :=
  (caller.play LocalSearch.method (Solver.serve LocalSearch.method cast fuel)).runOn m

end HillClimb
