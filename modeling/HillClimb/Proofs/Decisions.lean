import HillClimb.Proofs.Commits

set_option autoImplicit false

/-! # Decisions and the rule that makes them

Every decision of a search is what its acceptance rule answered about the neighbour and the solution
that was current at that time (`Governed`, which lasts by `Governed.lasting`). So the decisions of a
stretch are ruled by the rule, each one at the place where the decisions before it had led to
(`Stretch.Ruled`, `Ruled.decision`). -/

namespace HillClimb

variable {W S : Type}

/-! ## Ruled stretches -/

namespace Stretch

/-- Each decision agrees with `R` about its neighbour and the solution that was `current` then. -/
inductive Ruled (R : S → S → Bool → Prop) : Stretch S → Prop
  | chosen (s : S) : Ruled R ⟨s, []⟩
  | decided {st : Stretch S} {neighbor : S} {accepted : Bool} (h : Ruled R st)
      (hR : R neighbor st.current accepted) : Ruled R (st.decide neighbor accepted)

/-- The stretch as it was after so many decisions. -/
def upTo (st : Stretch S) (n : Nat) : Stretch S := ⟨st.initial, st.decisions.take n⟩

theorem upTo_length (st : Stretch S) : st.upTo st.decisions.length = st := by
  rw [upTo, List.take_length]

theorem upTo_decide {st : Stretch S} {n : Nat} (h : n ≤ st.decisions.length) (neighbor : S)
    (accepted : Bool) : (st.decide neighbor accepted).upTo n = st.upTo n := by
  rw [upTo, upTo, decide, List.take_append_of_le_length h]

theorem upTo_succ {st : Stretch S} {n : Nat} {neighbor : S} {accepted : Bool}
    (hn : st.decisions[n]? = some (neighbor, accepted)) :
    st.upTo (n + 1) = (st.upTo n).decide neighbor accepted := by
  simp [upTo, decide, List.take_add_one, hn]

theorem generated_decide (st : Stretch S) (neighbor : S) (accepted : Bool) :
    (st.decide neighbor accepted).generated = st.generated ++ [neighbor] := by
  simp [generated, decide]

theorem generated_upTo (st : Stretch S) (n : Nat) :
    (st.upTo n).generated = st.generated.take (n + 1) := by
  simp [generated, upTo, List.map_take]

/-- The current solution is one of those that were made. -/
theorem current_mem_generated {R : S → S → Bool → Prop} {st : Stretch S} (h : st.Ruled R) :
    st.current ∈ st.generated := by
  induction h with
  | chosen s => exact List.mem_singleton_self s
  | @decided st neighbor accepted h hR ih =>
    rw [current_decide, generated_decide]
    cases accepted with
    | true => exact List.mem_append_right _ (List.mem_singleton_self neighbor)
    | false => exact List.mem_append_left _ ih

/-- The earlier decisions were ruled, too. -/
theorem Ruled.upTo {R : S → S → Bool → Prop} {st : Stretch S} (h : st.Ruled R) (n : Nat) :
    (st.upTo n).Ruled R := by
  induction h with
  | chosen s =>
    rw [Stretch.upTo, List.take_nil]
    exact .chosen s
  | @decided st neighbor accepted h hR ih =>
    rcases Nat.lt_or_ge st.decisions.length n with hn | hn
    · rw [Stretch.upTo, List.take_of_length_le (by rw [length_decide]; omega)]
      exact .decided h hR
    · rw [upTo_decide hn]
      exact ih

/-- Each decision was ruled where the earlier ones had led to, that is, at the `current` solution of
    the stretch up to it. -/
theorem Ruled.decision {R : S → S → Bool → Prop} {st : Stretch S} (h : st.Ruled R) {n : Nat}
    {neighbor : S} {accepted : Bool} (hn : st.decisions[n]? = some (neighbor, accepted)) :
    R neighbor (st.upTo n).current accepted := by
  induction h with
  | chosen s => simp at hn
  | @decided st neighbor' accepted' h hR ih =>
    rw [decide] at hn
    rcases Nat.lt_or_ge n st.decisions.length with hlt | hge
    · rw [List.getElem?_append_left hlt] at hn
      rw [upTo_decide (Nat.le_of_lt hlt)]
      exact ih hn
    · rw [List.getElem?_append_right hge, List.getElem?_singleton] at hn
      split at hn
      · obtain ⟨rfl, rfl⟩ := Prod.mk.inj (Option.some.inj hn)
        obtain rfl : n = st.decisions.length := by omega
        rw [upTo_decide (Nat.le_refl _), upTo_length]
        exact hR
      · cases hn

end Stretch

variable [Candidate S]

/-- Asked at some `HookState` by some solver, the rule gives this answer about a neighbour. -/
def Acceptance.Answers (rule : Acceptance W S) (neighbor current : S) (accepted : Bool) : Prop :=
  ∃ solver state, ((rule.accepts neighbor (some current) solver).runAt state).1 = .ok accepted

/-- If the entry is a decision, it is what the rule `Answers` after the entries before it. -/
def Entry.RuledBy (rule : Acceptance W S) (before : List (Entry S)) (e : Entry S) : Prop :=
  ∀ neighbor accepted, e = .decided neighbor accepted →
    ∀ st, stretchOf before = some st → rule.Answers neighbor st.current accepted

theorem Entry.ruledBy_of_not_isCommit {rule : Acceptance W S} {before : List (Entry S)}
    {e : Entry S} (h : e.isCommit = false) : e.RuledBy rule before := by
  rintro neighbor accepted rfl
  cases h

/-- Decisions that are `RuledBy` the rule one by one make a stretch that is `Ruled` by it. -/
theorem ruled_of_everywhere {rule : Acceptance W S} {past : List (Entry S)}
    (h : Everywhere (fun before e => e.RuledBy rule before) past) {st : Stretch S}
    (hst : stretchOf past = some st) : st.Ruled rule.Answers := by
  induction past using List.reverseRecOn generalizing st with
  | nil => cases hst
  | append_singleton past e ih =>
    rw [stretchOf_concat] at hst
    have hlast := h past e [] rfl
    cases e with
    | started s =>
      obtain rfl := Option.some.inj hst
      exact .chosen s
    | decided neighbor accepted =>
      obtain ⟨st', hst', rfl⟩ := Option.map_eq_some_iff.1 hst
      exact .decided (ih h.of_append hst') (hlast neighbor accepted rfl st' hst')
    | _ => exact ih h.of_append hst

/-! ## The rule of a search -/

/-- A search whose decisions have always been those of one rule, its own. -/
structure Governed (rule : Acceptance W S) (level : Int) (m : Machine W (LocalSearch W S) S) :
    Prop extends Standing level m where
  acceptance : m.solver.inner.acceptance = some rule
  ruled : Everywhere (fun before e => e.RuledBy rule before) m.past

namespace Governed

variable {rule : Acceptance W S} {level : Int} {m m₁ m₂ : Machine W (LocalSearch W S) S}

/-- Entries that commit nothing are ruled by any rule. -/
theorem append (h : Everywhere (fun before e => e.RuledBy rule before) m.past)
    {l : List (Entry S)} (hl : ∀ e ∈ l, e.isCommit = false) (hpast : m₂.past = m.past ++ l) :
    Everywhere (fun before e => e.RuledBy rule before) m₂.past := by
  rw [hpast]
  exact h.append fun e he before => Entry.ruledBy_of_not_isCommit (hl e he)

theorem append_aside (h : Everywhere (fun before e => e.RuledBy rule before) m.past)
    (ha : m.Aside m₂) : Everywhere (fun before e => e.RuledBy rule before) m₂.past := by
  obtain ⟨work, hwork, hpast⟩ := ha.past
  exact append h (fun e he => Entry.isCommit_of_isWork (hwork e he)) hpast

theorem append_chosen (h : Everywhere (fun before e => e.RuledBy rule before) m.past)
    (ha : m.Aside m₁) {initial : S} (ha' : (m₁.chosen initial).Aside m₂) :
    Everywhere (fun before e => e.RuledBy rule before) m₂.past := by
  refine append_aside ?_ ha'
  rw [Machine.past_chosen]
  refine (append_aside h ha).concat ?_
  rintro neighbor accepted h'
  cases h'

/-- What the search decides is what its rule answers at the place where the search is. -/
theorem append_judged (h : Governed rule level m) {neighbor : S} {accepted : Bool}
    (hjudges : LocalSearch.Judges m.solver neighbor accepted) (ha : m.Aside m₁)
    (ha' : (m₁.judged neighbor accepted).Aside m₂) :
    Everywhere (fun before e => e.RuledBy rule before) m₂.past := by
  refine append_aside ?_ ha'
  rw [Machine.past_judged]
  refine (append_aside h.ruled ha).concat ?_
  intro neighbor' accepted' hentry st hst
  obtain ⟨rfl, rfl⟩ : neighbor = neighbor' ∧ accepted = accepted' := by simpa using hentry
  rw [ha.stretch] at hst
  -- The rule was asked about the solution that the stretch has led to.
  have hcurrent : m.solver.inner.current = some st.current :=
    h.shown.located.current_of_stretch hst
  obtain ⟨rule', hrule', state, hanswer⟩ := hjudges
  obtain rfl : rule' = rule := Option.some.inj (hrule'.symm.trans h.acceptance)
  rw [hcurrent] at hanswer
  exact ⟨_, state, hanswer⟩

/-- That one rule decides lasts. -/
theorem lasting (rule : Acceptance W S) (level : Int) :
    LocalSearch.Lasting (Governed rule level : Machine W (LocalSearch W S) S → Prop) where
  aside m m' h ha :=
    ⟨h.aside ha, by rw [ha.solver]; exact h.acceptance, append_aside h.ruled ha⟩
  recorded m r h := ⟨(Standing.lasting level).recorded m r h.toStanding, h.acceptance, h.ruled⟩
  glimpsed m entry hentry h := by
    refine ⟨h.glimpsed hentry, h.acceptance, append h.ruled (fun e he => ?_)
      (Machine.past_glimpsed m entry)⟩
    rw [List.mem_singleton.1 he]
    exact (Entry.isCommit_of_sight? (hentry _)).1
  observed m o h := ⟨(Standing.lasting level).observed m o h.toStanding, h.acceptance, h.ruled⟩
  overwritten m n h :=
    ⟨h.overwritten n, h.acceptance, append h.ruled (by simp [Entry.isCommit])
      (Machine.past_overwritten m n)⟩
  entered m result h hm := by
    refine ⟨h.entered hm, ?_, ?_⟩
    · rw [← h.acceptance]
      exact congrArg (fun s => s.inner.acceptance) hm.blank
    · cases hm with
      | failed ha => exact append_aside h.ruled ha
      | unreported ha ha' hcost => exact append_chosen h.ruled ha ha'
      | entered ha ha' =>
        have hruled := append_chosen h.ruled ha ha'
        exact hruled
  strode m result h hm := by
    refine ⟨h.strode hm, ?_, ?_⟩
    · rw [← h.acceptance]
      exact congrArg (fun s => s.inner.acceptance) hm.blank
    · cases hm with
      | failed ha => exact append_aside h.ruled ha
      | unreported hready hjudges ha ha' hcost => exact h.append_judged hjudges ha ha'
      | strode hready hjudges ha ha' =>
        have hruled := h.append_judged hjudges ha ha'
        exact hruled

end Governed

end HillClimb
