import HillClimb.Proofs.Decisions
import HillClimb.Proofs.Protocol
import HillClimb.Proofs.Strictness
import Mathlib.Data.Finset.Card

set_option autoImplicit false

/-! # Descent

A search whose comparator is a strict partial order on finitely many keys goes down a chain: each
neighbour that it accepts has a key from which fewer keys are better than from the one before
(`rank_lt`). So it accepts fewer neighbours than there are keys, and never comes back to a key that
it has left (`Stretch.Descends`), as long as its factory makes solutions with these keys only
(`Factory.MakesOnly`). -/

namespace HillClimb

variable {W S κ : Type}

/-! ## Ranks -/

/-- How many keys are better than this one. -/
def rank (keys : Finset κ) (R : κ → κ → Bool) (k : κ) : Nat := (keys.filter fun k' => R k' k).card

section

variable {keys : Finset κ} {R : κ → κ → Bool} {k k' : κ}

/-- A better key has a lower `rank`, because a strict order is transitive and nothing is better than
    itself. -/
theorem rank_lt (hR : StrictOn (· ∈ keys) R) (hk : k ∈ keys) (hk' : k' ∈ keys) (h : R k' k) :
    rank keys R k' < rank keys R k := by
  refine Finset.card_lt_card ⟨fun x hx => ?_, fun hsub => ?_⟩
  · obtain ⟨hmem, hbetter⟩ := Finset.mem_filter.1 hx
    exact Finset.mem_filter.2 ⟨hmem, hR.trans x k' k hmem hk' hk hbetter h⟩
  · -- The better key itself is counted for the other one only.
    have hself := hsub (Finset.mem_filter.2 ⟨hk', h⟩)
    exact hR.irrefl k' hk' (Finset.mem_filter.1 hself).2

theorem rank_lt_card (hR : StrictOn (· ∈ keys) R) (hk : k ∈ keys) :
    rank keys R k < keys.card := by
  refine Finset.card_lt_card (Finset.filter_ssubset.2 ⟨k, hk, ?_⟩)
  exact hR.irrefl k hk

end

/-! ## Stretches that descend -/

namespace Stretch

/-- The decisions were those of the relation between the keys: the stretch is `Ruled` by it. -/
abbrev Keyed (key : S → κ) (R : κ → κ → Bool) (st : Stretch S) : Prop :=
  st.Ruled fun neighbor current accepted => accepted = R (key neighbor) (key current)

/-- How many neighbours were accepted. -/
def acceptances (st : Stretch S) : Nat := st.decisions.countP Prod.snd

/-- Fewer neighbours were accepted than there are keys, and a key that was left by an accepted
    neighbour was never returned to. -/
structure Descends (keys : Finset κ) (key : S → κ) (st : Stretch S) : Prop where
  acceptances : st.acceptances + 1 ≤ keys.card
  left : ∀ n later neighbor, st.decisions[n]? = some (neighbor, true) → n < later →
    later ≤ st.decisions.length → key (st.upTo later).current ≠ key (st.upTo n).current

variable {keys : Finset κ} {key : S → κ} {R : κ → κ → Bool} {st : Stretch S}

/-- Each acceptance takes at least one from the `rank`, so the two together never exceed that of the
    initial solution. -/
theorem Keyed.acceptances_add_rank_le (hR : StrictOn (· ∈ keys) R) (h : st.Keyed key R)
    (hkeys : ∀ s ∈ st.generated, key s ∈ keys) :
    st.acceptances + rank keys R (key st.current) ≤ rank keys R (key st.initial) := by
  induction h with
  | chosen s => simp [acceptances, current]
  | @decided st neighbor accepted h hdecision ih =>
    rw [generated_decide] at hkeys
    have hold := ih fun s hs => hkeys s (List.mem_append_left _ hs)
    have hcurrent := hkeys _ (List.mem_append_left _ (current_mem_generated h))
    have hneighbor := hkeys neighbor (List.mem_append_right _ (List.mem_singleton_self neighbor))
    have hinitial : (st.decide neighbor accepted).initial = st.initial := rfl
    have hcount : (st.decide neighbor accepted).acceptances
        = st.acceptances + if accepted then 1 else 0 := by
      cases accepted <;> simp [acceptances, decide]
    rw [current_decide, hinitial, hcount]
    cases accepted with
    | false => simpa using hold
    | true =>
      have hlt := rank_lt hR hcurrent hneighbor hdecision.symm
      simp only [if_true]
      omega

/-- What comes after an accepted neighbour is better than what was left for it. -/
theorem Keyed.left_behind (hR : StrictOn (· ∈ keys) R) (h : st.Keyed key R)
    (hkeys : ∀ s ∈ st.generated, key s ∈ keys) {n later : Nat} {neighbor : S}
    (hn : st.decisions[n]? = some (neighbor, true)) (hlt : n < later)
    (hlater : later ≤ st.decisions.length) :
    R (key (st.upTo later).current) (key (st.upTo n).current) := by
  have hmem : ∀ i, key (st.upTo i).current ∈ keys := by
    intro i
    have hgenerated := current_mem_generated (h.upTo i)
    rw [generated_upTo] at hgenerated
    exact hkeys _ (List.mem_of_mem_take hgenerated)
  induction later, hlt using Nat.le_induction with
  | base =>
    rw [upTo_succ hn, current_decide, if_pos rfl]
    exact (h.decision hn).symm
  | succ later hle ih =>
    have hbetter := ih (by omega)
    obtain ⟨⟨neighbor', accepted⟩, hdecision⟩ :
        ∃ d, st.decisions[later]? = some d := ⟨_, List.getElem?_eq_getElem (by omega)⟩
    have hnext := hmem (later + 1)
    rw [upTo_succ hdecision, current_decide] at hnext ⊢
    cases accepted with
    | false => exact hbetter
    | true =>
      rw [if_pos rfl] at hnext ⊢
      exact hR.trans _ _ _ hnext (hmem later) (hmem n) (h.decision hdecision).symm hbetter

theorem Keyed.descends (hR : StrictOn (· ∈ keys) R) (h : st.Keyed key R)
    (hkeys : ∀ s ∈ st.generated, key s ∈ keys) : st.Descends keys key := by
  have hinitial := hkeys st.initial List.mem_cons_self
  refine ⟨?_, fun n later neighbor hn hlt hlater heq => ?_⟩
  · have hle := h.acceptances_add_rank_le hR hkeys
    have hlt := rank_lt_card hR hinitial
    omega
  · have hbetter := h.left_behind hR hkeys hn hlt hlater
    rw [heq] at hbetter
    refine hR.irrefl _ ?_ hbetter
    have hgenerated := current_mem_generated (h.upTo n)
    rw [generated_upTo] at hgenerated
    exact hkeys _ (List.mem_of_mem_take hgenerated)

end Stretch

/-! ## What a factory makes -/

/-- Whenever the factory makes a solution, it has the property. -/
structure Factory.MakesOnly (factory : Factory W S) (P : S → Prop) : Prop where
  initial : ∀ g state s, ((factory.createInitial g).runAt state).1 = .ok s → P s
  neighbor : ∀ current g state s, ((factory.createNeighbor current g).runAt state).1 = .ok s → P s

/-- If the entry is a commit, its solution has the property. -/
def Entry.Commits (P : S → Prop) : Entry S → Prop
  | .started s => P s
  | .decided neighbor _ => P neighbor
  | _ => True

theorem Entry.commits_of_not_isLandmark {P : S → Prop} {e : Entry S} (h : e.isLandmark = false) :
    e.Commits P := by
  cases e <;> simp_all [isLandmark, Commits]

/-- All solutions of a stretch come from commits. -/
theorem generated_of_commits {P : S → Prop} {past : List (Entry S)}
    (h : ∀ e ∈ past, e.Commits P) {st : Stretch S} (hst : stretchOf past = some st) :
    ∀ s ∈ st.generated, P s := by
  induction past using List.reverseRecOn generalizing st with
  | nil => cases hst
  | append_singleton past e ih =>
    obtain ⟨hpast, hlast⟩ := List.forall_mem_append.1 h
    have hcommits := hlast e (List.mem_singleton_self e)
    rw [stretchOf_concat] at hst
    cases e with
    | started s =>
      obtain rfl := Option.some.inj hst
      intro s' hs'
      rw [List.mem_singleton.1 hs']
      exact hcommits
    | decided neighbor accepted =>
      obtain ⟨st', hst', rfl⟩ := Option.map_eq_some_iff.1 hst
      rw [Stretch.generated_decide]
      refine List.forall_mem_append.2 ⟨ih hpast hst', fun s' hs' => ?_⟩
      rw [List.mem_singleton.1 hs']
      exact hcommits
    | _ => exact ih hpast hst

variable [Candidate S]

/-- What a turn commits to was made by its factory: this is so for each way in which it `Writes`. -/
theorem Turn.Writes.commits {t : Turn W S} {block : List (Entry S)} (h : t.Writes block)
    {factory : Factory W S} (hfactory : t.before.solver.inner.factory = some factory)
    {P : S → Prop} (honly : factory.MakesOnly P) : ∀ e ∈ block, e.Commits P := by
  cases h with
  | started hfactory' hmade =>
    obtain rfl := Option.some.inj (hfactory'.symm.trans hfactory)
    simpa [Entry.Commits] using honly.initial _ _ _ hmade
  | decided hready hfactory' hrule hmade hdecided =>
    obtain rfl := Option.some.inj (hfactory'.symm.trans hfactory)
    simpa [Entry.Commits] using honly.neighbor _ _ _ _ hmade
  | _ => simp [Entry.Commits]

/-- An `Orderly` search all of whose solutions were made by one factory. -/
structure Supplied (factory : Factory W S) (P : S → Prop) (m : Machine W (LocalSearch W S) S) :
    Prop extends Orderly m where
  factory : m.solver.inner.factory = some factory
  commits : ∀ e ∈ m.past, e.Commits P

namespace Supplied

variable {factory : Factory W S} {P : S → Prop} {m m' : Machine W (LocalSearch W S) S}

omit [Candidate S] in
theorem of_landmarks (hm : Orderly m) (hfactory : m.solver.inner.factory = some factory)
    (h : ∀ e ∈ m.landmarks, e.Commits P) : Supplied factory P m := by
  refine ⟨hm, hfactory, fun e he => ?_⟩
  cases hlandmark : e.isLandmark with
  | false => exact Entry.commits_of_not_isLandmark hlandmark
  | true => exact h e (Machine.mem_landmarks.2 ⟨he, hlandmark⟩)

omit [Candidate S] in
theorem landmarks (h : Supplied factory P m) : ∀ e ∈ m.landmarks, e.Commits P :=
  fun e he => h.commits e (Machine.mem_landmarks.1 he).1

omit [Candidate S] in
theorem idle (h : Supplied factory P m) (hidle : m.Idle m') : Supplied factory P m' := by
  refine .of_landmarks (h.toOrderly.idle hidle)
    ((Solver.made_of_blank hidle.blank).1.trans h.factory) ?_
  rw [hidle.landmarks]
  exact h.landmarks

theorem turn (honly : factory.MakesOnly P) {t : Turn W S} (h : Supplied factory P t.before) :
    Supplied factory P t.outcome.2 := by
  obtain ⟨block, hwrites, hlandmarks⟩ := h.writes
  refine .of_landmarks h.toOrderly.turn
    ((Solver.made_of_blank t.blank).1.trans h.factory) ?_
  rw [hlandmarks]
  exact List.forall_mem_append.2 ⟨h.landmarks, hwrites.commits h.factory honly⟩

end Supplied

/-! ## Searches that descend -/

/-- The strict rule with a comparator that goes by keys takes what has a better key. -/
theorem Comparator.Answers.keyed {c : Comparator W S} {keys : Finset κ} {key : S → κ}
    {R : κ → κ → Bool} (hc : c.Answers (key · ∈ keys) fun a b => R (key a) (key b))
    (hcounts : c.counts) {st : Stretch S} (h : st.Ruled (Acceptance.strict (some c)).Answers)
    (hkeys : ∀ s ∈ st.generated, key s ∈ keys) : st.Keyed key R := by
  induction h with
  | chosen s => exact .chosen s
  | @decided st neighbor accepted h hanswers ih =>
    rw [Stretch.generated_decide] at hkeys
    have hold : ∀ s ∈ st.generated, key s ∈ keys := fun s hs => hkeys s (List.mem_append_left _ hs)
    have hneighbor := hkeys neighbor (List.mem_append_right _ (List.mem_singleton_self neighbor))
    refine .decided (ih hold) ?_
    obtain ⟨solver, state, hanswer⟩ := hanswers
    simp only [Acceptance.accepts, Acceptance.strictly, Comparator.firstCounting, hcounts,
      if_true] at hanswer
    have hgives := hc neighbor st.current hneighbor (hold _ (Stretch.current_mem_generated h)) state
    exact Except.ok.inj (hanswer.symm.trans hgives)

end HillClimb
