import HillClimb.Proofs.Turns

set_option autoImplicit false

/-! # Calls unfold into turns

Whatever is done with a search, by calls that nest, fail, or remain unfinished, is a sequence of
turns with idle work between them (`Machine.Unfolds`, by `unfolds_session`). If nobody who calls the
search goes on after a call that failed (`Program.Forthright`), then a turn that fails is the last
one, and its failure comes out of the outermost call (`Passed`). -/

namespace HillClimb

variable {W S α β : Type} [Candidate S]

/-! ## Sequences of turns -/

/-- The first machine becomes the second by these turns, with `Idle` work around them. -/
inductive Machine.Unfolds : Machine W (LocalSearch W S) S → List (Turn W S) →
    Machine W (LocalSearch W S) S → Prop
  | idle {m m' : Machine W (LocalSearch W S) S} (h : m.Idle m') : Unfolds m [] m'
  | turn {m m' : Machine W (LocalSearch W S) S} {t : Turn W S} {turns : List (Turn W S)}
      (h : m.Idle t.before) (h' : Unfolds t.outcome.2 turns m') : Unfolds m (t :: turns) m'

namespace Machine.Unfolds

variable {m m₁ m₂ : Machine W (LocalSearch W S) S} {turns turns' : List (Turn W S)}

theorem after_idle (h : m.Idle m₁) (h' : m₁.Unfolds turns m₂) : m.Unfolds turns m₂ := by
  cases h' with
  | idle h' => exact .idle (h.trans h')
  | turn h' hrest => exact .turn (h.trans h') hrest

theorem trans (h : m.Unfolds turns m₁) (h' : m₁.Unfolds turns' m₂) :
    m.Unfolds (turns ++ turns') m₂ := by
  induction h with
  | idle h => exact h'.after_idle h
  | turn h _ ih => exact .turn h (ih h')

theorem single (t : Turn W S) : t.before.Unfolds [t] t.outcome.2 :=
  .turn (.refl _) (.idle (.refl _))

/-- What idle work and turns keep holds after all turns, and held before each of them. -/
theorem keeps {P : Machine W (LocalSearch W S) S → Prop} (hidle : ∀ m m', P m → m.Idle m' → P m')
    (hturn : ∀ t : Turn W S, P t.before → P t.outcome.2) (h : m.Unfolds turns m₁) (hm : P m) :
    P m₁ ∧ ∀ t ∈ turns, P t.before := by
  induction h with
  | idle h => exact ⟨hidle _ _ hm h, by simp⟩
  | turn h _ ih =>
    have hbefore := hidle _ _ hm h
    obtain ⟨hlast, hall⟩ := ih (hturn _ hbefore)
    exact ⟨hlast, List.forall_mem_cons.2 ⟨hbefore, hall⟩⟩

end Machine.Unfolds

/-- A turn that fails is the last one, and its failure is the result. -/
def Passed (turns : List (Turn W S)) (result : Except Halt α) : Prop :=
  ∀ before t after cause, turns = before ++ t :: after →
    t.outcome.1 = .error (.failed cause) → after = [] ∧ result = .error (.failed cause)

namespace Passed

theorem nil (result : Except Halt α) : Passed ([] : List (Turn W S)) result := by
  intro before t after cause hsplit
  simp at hsplit

theorem single (t : Turn W S) : Passed [t] t.outcome.1 := by
  intro before t' after cause hsplit hfailed
  cases before with
  | nil =>
    obtain ⟨rfl, rfl⟩ := List.cons.inj hsplit
    exact ⟨rfl, hfailed⟩
  | cons t'' before => simp at hsplit

/-- After turns none of which failed more turns may come. -/
theorem append {turns turns' : List (Turn W S)} {a : α} {result : Except Halt β}
    (h : Passed turns (.ok a : Except Halt α)) (h' : Passed turns' result) :
    Passed (turns ++ turns') result := by
  intro before t after cause hsplit hfailed
  rcases List.append_eq_append_iff.1 hsplit with ⟨rest, rfl, hrest⟩ | ⟨rest, rfl, hrest⟩
  · exact h' rest t after cause hrest hfailed
  · cases rest with
    | nil => exact h' [] t after cause hrest.symm hfailed
    | cons t' rest =>
      obtain ⟨rfl, -⟩ := List.cons.inj hrest
      have := (h before t rest cause rfl hfailed).2
      cases this

/-- A failure is passed on as it is. -/
theorem error {turns : List (Turn W S)} {h : Halt} (hp : Passed turns (.error h : Except Halt α)) :
    Passed turns (.error h : Except Halt β) := by
  intro before t after cause hsplit hfailed
  obtain ⟨hafter, hresult⟩ := hp before t after cause hsplit hfailed
  exact ⟨hafter, congrArg Except.error (Except.error.inj hresult)⟩

end Passed

/-! ## Actions -/

namespace Action

/-- The action is a sequence of turns, and if it is `candid`, their failures are `Passed` on. -/
def Unfolds (candid : Prop) (x : Action W (LocalSearch W S) S α) : Prop :=
  ∀ m : Machine W (LocalSearch W S) S,
    ∃ turns, m.Unfolds turns (x.runOn m).2 ∧ (candid → Passed turns (x.runOn m).1)

namespace Unfolds

variable {candid : Prop}

theorem of_idles {x : Action W (LocalSearch W S) S α} (hx : x.Idles) : Unfolds candid x :=
  fun m => ⟨[], .idle (hx m), fun _ => .nil _⟩

theorem enter : Unfolds candid (Solver.enter (LocalSearch.method (W := W) (S := S))) :=
  fun m => ⟨[.start m], .single (.start m), fun _ => .single (.start m)⟩

theorem stride : Unfolds candid (Solver.stride (LocalSearch.method (W := W) (S := S))) :=
  fun m => ⟨[.step m], .single (.step m), fun _ => .single (.step m)⟩

theorem bind {x : Action W (LocalSearch W S) S α} {f : α → Action W (LocalSearch W S) S β}
    (hx : Unfolds candid x) (hf : ∀ a, Unfolds candid (f a)) : Unfolds candid (x >>= f) := by
  intro m
  obtain ⟨turns, hturns, hpassed⟩ := hx m
  rw [run_bind]
  rcases hxm : x.runOn m with ⟨h | a, m'⟩ <;> rw [hxm] at hturns hpassed
  · exact ⟨turns, hturns, fun hc => (hpassed hc).error⟩
  · obtain ⟨turns', hturns', hpassed'⟩ := hf a m'
    exact ⟨turns ++ turns', hturns.trans hturns', fun hc => (hpassed hc).append (hpassed' hc)⟩

/-- A failure that is caught may be followed by more turns, unless it is passed on. -/
theorem attempt {x : Action W (LocalSearch W S) S α}
    {f : Except Failure α → Action W (LocalSearch W S) S β} (hx : Unfolds candid x)
    (hf : ∀ outcome, Unfolds candid (f outcome))
    (hcandid : candid → ∀ cause m, m.Idle ((f (.error cause)).runOn m).2 ∧
      ((f (.error cause)).runOn m).1 = .error (.failed cause)) :
    Unfolds candid (Action.attempt x >>= f) := by
  intro m
  obtain ⟨turns, hturns, hpassed⟩ := hx m
  rw [run_bind, run_attempt]
  rcases hxm : x.runOn m with ⟨(cause | _) | a, m'⟩ <;> rw [hxm] at hturns hpassed
  · -- Who is candid fails likewise, and does nothing but idle work before.
    by_cases hc : candid
    · obtain ⟨hidle, hfails⟩ := hcandid hc cause m'
      refine ⟨turns ++ [], hturns.trans (.idle hidle), fun _ => ?_⟩
      rw [List.append_nil, hfails]
      exact (hpassed hc).error
    · obtain ⟨turns', hturns', -⟩ := hf (.error cause) m'
      exact ⟨turns ++ turns', hturns.trans hturns', fun hc' => absurd hc' hc⟩
  · exact ⟨turns, hturns, fun hc => (hpassed hc).error⟩
  · obtain ⟨turns', hturns', hpassed'⟩ := hf (.ok a) m'
    exact ⟨turns ++ turns', hturns.trans hturns', fun hc => (hpassed hc).append (hpassed' hc)⟩

end Unfolds

end Action

/-! ## Programs -/

/-- The program does not go on after a call of its own that failed: it fails likewise. -/
def Program.Forthright : Program W S α → Prop
  | .done _ => True
  | .fail _ => True
  | .look next => ∀ seen world, (next seen world).Forthright
  | .read _ next => ∀ trajectory, (next trajectory).Forthright
  | .perform _ next => ∀ outcome, (next outcome).Forthright
  | .call _ next =>
    (∀ cause, next (.error cause) = .fail cause) ∧ ∀ outcome, (next outcome).Forthright

omit [Candidate S] in
/-- No observer and no stop condition catches a failure of its own calls: all are `Forthright`. -/
structure Cast.Forthright (cast : Cast W S) : Prop where
  observer : ∀ o program, cast.observer o = .custom program → ∀ news, (program news).Forthright
  stop : ∀ stop, (cast.stop stop).Forthright

namespace Solver

variable {candid : Prop} {cast : Cast W S} {serve : Call → Action W (LocalSearch W S) S Unit}

theorem unfolds_play (hs : ∀ c, Action.Unfolds candid (serve c)) (p : Program W S α)
    (hp : candid → p.Forthright) :
    Action.Unfolds candid (p.play LocalSearch.method serve) := by
  induction p with
  | done a => exact .of_idles (.pure a)
  | fail cause => exact .of_idles (.fail cause)
  | look next ih =>
    rw [Program.play]
    refine (Action.Unfolds.of_idles (.noteSeen _ fun _ => rfl)).bind fun _ => ?_
    refine (Action.Unfolds.of_idles .get).bind fun m => ?_
    exact ih _ _ fun hc => hp hc _ _
  | read o next ih =>
    rw [Program.play]
    refine (Action.Unfolds.of_idles (.noteSeen _ fun _ => rfl)).bind fun _ => ?_
    refine (Action.Unfolds.of_idles .get).bind fun m => ?_
    exact ih _ fun hc => hp hc _
  | perform h next ih =>
    rw [Program.play]
    refine (Action.Unfolds.of_idles (Action.Idles.hook h).attempt).bind fun outcome => ?_
    exact ih outcome fun hc => hp hc outcome
  | call c next ih =>
    rw [Program.play]
    refine (hs c).attempt (fun outcome => ?_) fun hc cause m => ?_
    · refine (Action.Unfolds.of_idles (.noteSeen _ fun _ => rfl)).bind fun _ => ?_
      exact ih outcome fun hc => (hp hc).2 outcome
    · rw [(hp hc).1 cause]
      refine ⟨?_, rfl⟩
      exact Action.Idles.bind (.noteSeen _ fun _ => rfl) (fun _ => .fail cause) m

/-! ## Rounds and calls -/

theorem unfolds_notify (hs : ∀ c, Action.Unfolds candid (serve c))
    (hcast : candid → cast.Forthright) (news : News S) (place : Nat) (o : ObserverId) :
    Action.Unfolds candid (notify LocalSearch.method cast serve news place o) := by
  refine (Action.Unfolds.of_idles (.noteSeen _ fun _ => rfl)).bind fun _ => ?_
  unfold react
  split
  · exact .of_idles (.pure _)
  · exact .of_idles (.record _ o news)
  · rename_i program hprogram
    exact unfolds_play hs _ fun hc => (hcast hc).observer o program hprogram news

theorem unfolds_round (hs : ∀ c, Action.Unfolds candid (serve c))
    (hcast : candid → cast.Forthright) (news : News S) (fuel place : Nat) :
    Action.Unfolds candid (round LocalSearch.method cast serve news fuel place) := by
  induction fuel generalizing place with
  | zero => exact .of_idles (.throw .unfinished)
  | succ fuel ih =>
    rw [round]
    refine (Action.Unfolds.of_idles .get).bind fun m => ?_
    split
    · exact .of_idles (.pure _)
    · exact (unfolds_notify hs hcast news place _).bind fun _ => ih (place + 1)

theorem unfolds_begin (hs : ∀ c, Action.Unfolds candid (serve c))
    (hcast : candid → cast.Forthright) (fuel : Nat) :
    Action.Unfolds candid (begin LocalSearch.method cast serve fuel) :=
  Action.Unfolds.enter.bind fun news => unfolds_round hs hcast news fuel 0

theorem unfolds_advance (hs : ∀ c, Action.Unfolds candid (serve c))
    (hcast : candid → cast.Forthright) (fuel : Nat) :
    Action.Unfolds candid (advance LocalSearch.method cast serve fuel) :=
  Action.Unfolds.stride.bind fun news => unfolds_round hs hcast news fuel 0

theorem unfolds_laps (hs : ∀ c, Action.Unfolds candid (serve c))
    (hcast : candid → cast.Forthright) (stop : StopId) (limit : Option Value)
    (bound fuel count : Nat) :
    Action.Unfolds candid (laps LocalSearch.method cast serve stop limit bound fuel count) := by
  induction fuel generalizing count with
  | zero => exact .of_idles (.throw .unfinished)
  | succ fuel ih =>
    rw [laps]
    refine (Action.Unfolds.of_idles (.noteSeen _ fun _ => rfl)).bind fun _ => ?_
    refine (unfolds_play hs _ fun hc => (hcast hc).stop stop).bind fun stopped => ?_
    split
    · exact .of_idles (.pure _)
    · refine (Action.Unfolds.of_idles (.limitReached limit count)).bind fun reached => ?_
      split
      · exact .of_idles (.pure _)
      · exact (unfolds_advance hs hcast bound).bind fun _ => ih (count + 1)

theorem unfolds_runUntil (hs : ∀ c, Action.Unfolds candid (serve c))
    (hcast : candid → cast.Forthright) (fuel : Nat) (stop : StopId) (limit : Option Value) :
    Action.Unfolds candid (runUntil LocalSearch.method cast serve fuel stop limit) := by
  have hget : Action.Unfolds candid
      (get : Action W (LocalSearch W S) S (Machine W (LocalSearch W S) S)) := .of_idles .get
  have hlog : ∀ text, Action.Unfolds candid
      (Action.log Level.info .lifecycle text [] : Action W (LocalSearch W S) S Unit) :=
    fun text => .of_idles (.log _ _ text [])
  have hexcursion : Action.Unfolds candid
      (excursion LocalSearch.method cast serve fuel stop limit) :=
    hget.bind fun _ => (hlog _).bind fun _ =>
      (unfolds_laps hs hcast stop limit fuel fuel 0).bind fun _ => hget.bind fun _ => hlog _
  rw [runUntil_eq]
  refine hget.bind fun m => ?_
  split
  · exact (unfolds_begin hs hcast fuel).bind fun _ => hexcursion
  · exact hexcursion

/-- Every call of `Solver.serve` unfolds into turns, however deep calls nest. -/
theorem unfolds_serve (hcast : candid → cast.Forthright) (fuel : Nat) (c : Call) :
    Action.Unfolds candid (Solver.serve LocalSearch.method cast fuel c) := by
  -- The calls nested in this one are served one level further down.
  induction fuel generalizing c with
  | zero => exact .of_idles (.throw .unfinished)
  | succ fuel ih =>
    cases c with
    | start => exact unfolds_begin ih hcast fuel
    | step => exact unfolds_advance ih hcast fuel
    | run stop limit => exact unfolds_runUntil ih hcast fuel stop limit
    | observe o => exact .of_idles (.observe o)
    | setStagnation n => exact .of_idles ((Action.Idles.note rfl).bind fun _ => .overwrite n)

/-- Whatever is done with a search, by a program that calls it, is a sequence of turns. -/
theorem unfolds_session (cast : Cast W S) (fuel : Nat) (caller : Program W S α)
    (m : Machine W (LocalSearch W S) S) :
    ∃ turns, m.Unfolds turns ((caller.play LocalSearch.method
      (Solver.serve LocalSearch.method cast fuel)).runOn m).2 := by
  have hs : ∀ c, Action.Unfolds False (Solver.serve LocalSearch.method cast fuel c) :=
    unfolds_serve False.elim fuel
  obtain ⟨turns, hturns, -⟩ := unfolds_play hs caller False.elim m
  exact ⟨turns, hturns⟩

/-- A call of a forthright cast is a sequence of turns of which none but the last one fails, and
    then the call does. -/
theorem passed_serve {cast : Cast W S} (hcast : cast.Forthright) (fuel : Nat) (c : Call)
    (m : Machine W (LocalSearch W S) S) :
    ∃ turns, m.Unfolds turns ((Solver.serve LocalSearch.method cast fuel c).runOn m).2 ∧
      Passed turns ((Solver.serve LocalSearch.method cast fuel c).runOn m).1 := by
  have hserve : Action.Unfolds True (Solver.serve LocalSearch.method cast fuel c) :=
    unfolds_serve (fun _ => hcast) fuel c
  obtain ⟨turns, hturns, hpassed⟩ := hserve m
  exact ⟨turns, hturns, hpassed trivial⟩

end Solver

end HillClimb
