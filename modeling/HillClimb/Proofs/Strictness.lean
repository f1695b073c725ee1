import HillClimb.Comparator.Validation
import HillClimb.Proofs.Actions
import Mathlib.Data.List.Pairwise

set_option autoImplicit false

/-! # What a validation decides

A validation tries a comparator on single solutions, on `pairs` at increasing places and on
`triples` at three different places, and stops at the first violation. It never tries a pair the
other way round, nor a triple with the same place twice, yet it passes a comparator exactly if that
is a strict partial order on the sample (`StrictOn`): what one check skips, the others cover
(`strictOn_iff`).

What a hook asks of a comparator is told apart from what it makes of the answers
(`Comparator.Asks`), so the questions of a validation are known too (`asks_violation?`). The result
is `validation_decides_strictness`. -/

namespace HillClimb

variable {W S α β : Type}

/-! ## Strict partial orders -/

/-- The relation is a strict partial order on the elements with `P`, which need not be different
    from one another. -/
structure StrictOn (P : α → Prop) (R : α → α → Bool) : Prop where
  irrefl : ∀ a, P a → ¬ R a a
  asymm : ∀ a b, P a → P b → ¬ (R a b ∧ R b a)
  trans : ∀ a b c, P a → P b → P c → R a b → R b c → R a c

/-! ## Places -/

theorem forall_mem_pairs {Q : α × α → Prop} {xs : List α} :
    (∀ p ∈ pairs xs, Q p) ↔ xs.Pairwise fun a b => Q (a, b) := by
  induction xs with
  | nil => simp [pairs]
  | cons x xs ih =>
    rw [pairs, List.forall_mem_append, List.forall_mem_map, ih, List.pairwise_cons]

theorem mem_selections_cons {x z : α} {others zs : List α} :
    (x, others) ∈ selections (z :: zs) ↔
      (x = z ∧ others = zs) ∨ ∃ rest, (x, rest) ∈ selections zs ∧ z :: rest = others := by
  rw [selections, List.mem_cons, List.mem_map, Prod.mk.injEq]
  refine or_congr_right ⟨?_, ?_⟩
  · rintro ⟨⟨y, rest⟩, hsel, h⟩
    obtain ⟨rfl, rfl⟩ := Prod.mk.inj h
    exact ⟨rest, hsel, rfl⟩
  · rintro ⟨rest, hsel, rfl⟩
    exact ⟨_, hsel, rfl⟩

theorem mem_selections {x : α} {others xs : List α} (h : (x, others) ∈ selections xs) :
    x ∈ xs ∧ ∀ y ∈ others, y ∈ xs := by
  induction xs generalizing others with
  | nil => simp [selections] at h
  | cons z zs ih =>
    rcases mem_selections_cons.1 h with ⟨rfl, rfl⟩ | ⟨rest, hsel, rfl⟩
    · exact ⟨List.mem_cons_self, fun y hy => List.mem_cons_of_mem _ hy⟩
    · obtain ⟨hx, hrest⟩ := ih hsel
      refine ⟨List.mem_cons_of_mem _ hx, fun w hw => ?_⟩
      rcases List.mem_cons.1 hw with rfl | hw
      · exact List.mem_cons_self
      · exact List.mem_cons_of_mem _ (hrest w hw)

/-- Every listed element is selected once with all elements that differ from it. -/
theorem exists_selection {x : α} {xs : List α} (h : x ∈ xs) :
    ∃ others, (x, others) ∈ selections xs ∧ ∀ y ∈ xs, y ≠ x → y ∈ others := by
  induction xs with
  | nil => simp at h
  | cons z zs ih =>
    by_cases hz : z = x
    · subst hz
      refine ⟨zs, by simp [selections], fun y hy hne => ?_⟩
      exact (List.mem_cons.1 hy).resolve_left hne
    · obtain ⟨others, hsel, hothers⟩ := ih ((List.mem_cons.1 h).resolve_left (Ne.symm hz))
      refine ⟨z :: others, mem_selections_cons.2 (.inr ⟨others, hsel, rfl⟩), fun y hy hne => ?_⟩
      rcases List.mem_cons.1 hy with rfl | hy
      · exact List.mem_cons_self
      · exact List.mem_cons_of_mem _ (hothers y hy hne)

theorem mem_of_mem_pairs {p : α × α} {xs : List α} (h : p ∈ pairs xs) : p.1 ∈ xs ∧ p.2 ∈ xs :=
  (forall_mem_pairs (Q := fun p => p.1 ∈ xs ∧ p.2 ∈ xs)).2
    (List.pairwise_of_forall_mem_list fun _ ha _ hb => ⟨ha, hb⟩) p h

/-- A triple is made by selecting twice. -/
theorem mem_triples_iff_selections {a b c : α} {xs : List α} :
    (a, b, c) ∈ triples xs ↔ ∃ others rest,
      (a, others) ∈ selections xs ∧ (b, rest) ∈ selections others ∧ c ∈ rest := by
  simp only [triples, List.mem_flatMap, List.mem_map, Prod.exists, Prod.mk.injEq]
  constructor
  · rintro ⟨x, others, hx, y, rest, hy, z, hz, rfl, rfl, rfl⟩
    exact ⟨others, rest, hx, hy, hz⟩
  · rintro ⟨others, rest, ha, hb, hc⟩
    exact ⟨a, others, ha, b, rest, hb, c, hc, rfl, rfl, rfl⟩

theorem mem_of_mem_triples {a b c : α} {xs : List α} (h : (a, b, c) ∈ triples xs) :
    a ∈ xs ∧ b ∈ xs ∧ c ∈ xs := by
  obtain ⟨others, rest, ha, hb, hc⟩ := mem_triples_iff_selections.1 h
  have hothers := mem_selections ha
  have hrest := mem_selections hb
  exact ⟨hothers.1, hothers.2 _ hrest.1, hothers.2 _ (hrest.2 _ hc)⟩

/-- Three different elements stand at three different places, so they are among the `triples`. -/
theorem mem_triples {a b c : α} {xs : List α} (ha : a ∈ xs) (hb : b ∈ xs) (hc : c ∈ xs)
    (hba : b ≠ a) (hca : c ≠ a) (hcb : c ≠ b) : (a, b, c) ∈ triples xs := by
  obtain ⟨others, hsel, hothers⟩ := exists_selection ha
  obtain ⟨rest, hsel', hrest⟩ := exists_selection (hothers b hb hba)
  exact mem_triples_iff_selections.2
    ⟨others, rest, hsel, hsel', hrest c (hothers c hc hca) hcb⟩

/-- A relation is `StrictOn` a list if and only if it passes what is tried at increasing places and
    at three different places. -/
theorem strictOn_iff {R : α → α → Bool} {xs : List α} :
    StrictOn (· ∈ xs) R ↔ (∀ x ∈ xs, ¬ R x x) ∧ (∀ p ∈ pairs xs, ¬ (R p.1 p.2 ∧ R p.2 p.1)) ∧
      ∀ t ∈ triples xs, ¬ (R t.1 t.2.1 ∧ R t.2.1 t.2.2 ∧ ¬ R t.1 t.2.2) := by
  constructor
  · intro h
    refine ⟨h.irrefl, ?_, ?_⟩
    · rw [forall_mem_pairs]
      exact List.pairwise_of_forall_mem_list fun a ha b hb => h.asymm a b ha hb
    · rintro ⟨a, b, c⟩ ht ⟨hab, hbc, hac⟩
      obtain ⟨ha, hb, hc⟩ := mem_of_mem_triples ht
      exact hac (h.trans a b c ha hb hc hab hbc)
  · rintro ⟨hirrefl, hpairs, htriples⟩
    -- Exchanged and equal pairs are covered by the pairs in order and by the single elements.
    have hasymm : ∀ a ∈ xs, ∀ b ∈ xs, ¬ (R a b ∧ R b a) := by
      have hpairwise := forall_mem_pairs.1 hpairs
      exact hpairwise.forall_of_forall_of_flip (fun a ha haa => hirrefl a ha haa.1)
        (hpairwise.imp fun hab hba => hab hba.symm)
    refine ⟨hirrefl, fun a b ha hb => hasymm a ha b hb, fun a b c ha hb hc hab hbc => ?_⟩
    -- A chain of two improvements runs through three different elements.
    have hba : b ≠ a := by
      rintro rfl
      exact hirrefl b hb hab
    have hcb : c ≠ b := by
      rintro rfl
      exact hirrefl c hc hbc
    have hca : c ≠ a := by
      rintro rfl
      exact hasymm c hc b hb ⟨hab, hbc⟩
    by_contra hac
    exact htriples (a, b, c) (mem_triples ha hb hc hba hca hcb) ⟨hab, hbc, hac⟩

/-! ## Hooks that always give the same answer -/

/-- The hook gives the answer at every `HookState`. -/
def Hook.Gives (h : Hook W S α) (a : α) : Prop := ∀ state, (h.runAt state).1 = .ok a

theorem Hook.Gives.pure (a : α) : (pure a : Hook W S α).Gives a := fun _ => rfl

theorem Hook.Gives.bind {h : Hook W S α} {f : α → Hook W S β} {a : α} {b : β} (hh : h.Gives a)
    (hf : (f a).Gives b) : (h >>= f).Gives b := by
  intro state
  have hanswer := hh state
  rw [Hook.run_bind]
  rcases hresult : h.runAt state with ⟨result, state'⟩
  rw [hresult] at hanswer
  obtain rfl : result = .ok a := hanswer
  exact hf state'

/-! ## Hooks that question a comparator -/

/-- The questions of a check of one thing after the other: those about the things up to the first
    that fails it. -/
def checkQuestions (fails : α → Bool) (about : α → List (S × S)) (xs : List α) : List (S × S) :=
  (xs.take (xs.findIdx fails + 1)).flatMap about

theorem exists_of_mem_checkQuestions {fails : α → Bool} {about : α → List (S × S)} {xs : List α}
    {q : S × S} (hq : q ∈ checkQuestions fails about xs) : ∃ x ∈ xs, q ∈ about x := by
  obtain ⟨x, hx, hq⟩ := List.mem_flatMap.1 hq
  exact ⟨x, List.mem_of_mem_take hx, hq⟩

namespace Comparator

variable [Candidate S]

/-- Puts questions to the comparator, in order. -/
def askAll (c : Comparator W S) : List (S × S) → Hook W S Unit
  | [] => return
  | (a, b) :: rest => do
    let _ ← c.isBetter a b
    askAll c rest

/-- Whenever the comparator answers about solutions with `P`, it answers as `R` says. At any time it
    may fail instead. -/
def Truthful (c : Comparator W S) (P : S → Prop) (R : S → S → Bool) : Prop :=
  ∀ a b, P a → P b → ∀ state answer, ((c.isBetter a b).runAt state).1 = .ok answer → answer = R a b

/-- The hook puts these questions to the comparator, in order, and then returns the result: it is
    `askAll` and the result. -/
def Asks (c : Comparator W S) (h : Hook W S α) (questions : List (S × S)) (a : α) : Prop :=
  h = (do c.askAll questions; return a)

variable {c : Comparator W S} {P : S → Prop} {R : S → S → Bool}

theorem askAll_append (questions questions' : List (S × S)) :
    c.askAll (questions ++ questions') = (do c.askAll questions; c.askAll questions') := by
  induction questions with
  | nil => rfl
  | cons q questions ih => simp only [List.cons_append, askAll, ih, bind_assoc]

theorem Asks.pure (a : α) : c.Asks (pure a) [] a := rfl

theorem Asks.bind {h : Hook W S α} {f : α → Hook W S β} {questions questions' : List (S × S)}
    {a : α} {b : β} (hh : c.Asks h questions a) (hf : c.Asks (f a) questions' b) :
    c.Asks (h >>= f) (questions ++ questions') b := by
  rw [Asks] at hh hf ⊢
  simp only [hh, askAll_append, bind_assoc, pure_bind, hf]

theorem Asks.map {h : Hook W S α} {questions : List (S × S)} {a : α} (hh : c.Asks h questions a)
    (f : α → β) : c.Asks (h >>= fun a => Pure.pure (f a)) questions (f a) := by
  have hmap := hh.bind (f := fun a => Pure.pure (f a)) (.pure (f a))
  rwa [List.append_nil] at hmap

/-- A question that is answered at all is answered as the relation says. -/
theorem Truthful.asks (h : c.Truthful P R) {a b : S} (ha : P a) (hb : P b) :
    c.Asks (c.isBetter a b) [(a, b)] (R a b) := by
  refine funext fun state => ?_
  have hanswer := h a b ha hb state
  change (c.isBetter a b).runAt state
    = ((do let _ ← c.isBetter a b; return ()) >>= fun _ => Pure.pure (R a b)).runAt state
  rw [bind_assoc, Hook.run_bind]
  rcases hresult : (c.isBetter a b).runAt state with ⟨cause | answer, state'⟩
  · rfl
  · rw [hresult] at hanswer
    rw [hanswer answer rfl]
    rfl

/-- A search by `firstWhere` asks about one thing after the other, up to the first that passes. -/
theorem asks_firstWhere {test : α → Hook W S Bool} {about : α → List (S × S)} {T : α → Bool}
    {xs : List α} (h : ∀ x ∈ xs, c.Asks (test x) (about x) (T x)) :
    c.Asks (firstWhere test xs) (checkQuestions T about xs) (xs.find? T) := by
  induction xs with
  | nil => exact .pure none
  | cons x xs ih =>
    have hx := h x List.mem_cons_self
    rw [firstWhere, checkQuestions, List.findIdx_cons]
    cases hT : T x with
    | true =>
      rw [hT] at hx
      rw [List.find?_cons_of_pos hT]
      have hfound := hx.bind (f := fun passes => if passes then Pure.pure (some x) else
        firstWhere test xs) (.pure (some x))
      simpa using hfound
    | false =>
      rw [hT] at hx
      rw [List.find?_cons_of_neg (by simp [hT])]
      exact hx.bind (ih fun y hy => h y (List.mem_cons_of_mem _ hy))

/-- A hook that asks what is always answered always gives its result. -/
theorem Asks.gives {h : Hook W S α} {questions : List (S × S)} {a : α}
    (hh : c.Asks h questions a)
    (hanswers : ∀ q ∈ questions, ∃ answer, (c.isBetter q.1 q.2).Gives answer) : h.Gives a := by
  rw [show h = _ from hh]
  refine Hook.Gives.bind (a := ()) ?_ (.pure a)
  clear hh
  induction questions with
  | nil => exact .pure ()
  | cons q questions ih =>
    obtain ⟨answer, hanswer⟩ := hanswers q List.mem_cons_self
    exact hanswer.bind (ih fun q' hq' => hanswers q' (List.mem_cons_of_mem _ hq'))

end Comparator

/-! ## Validations -/

namespace Violation

/-- The first violation of strictness on a sample, in the order in which `violation?` looks for
    them. -/
def first? (R : S → S → Bool) (sample : List S) : Option (Violation S) :=
  ((sample.find? fun x => R x x).map .reflexive).or <|
    (((pairs sample).find? fun p => R p.1 p.2 && R p.2 p.1).map fun p =>
      .symmetric p.1 p.2).or <|
    ((triples sample).find? fun t => R t.1 t.2.1 && (R t.2.1 t.2.2 && !R t.1 t.2.2)).map fun t =>
      .intransitive t.1 t.2.1 t.2.2

/-- No violation is found exactly if the relation is `StrictOn` the sample. -/
theorem first?_isNone {R : S → S → Bool} {sample : List S} :
    (first? R sample).isNone ↔ StrictOn (· ∈ sample) R := by
  rw [strictOn_iff, Option.isNone_iff_eq_none, first?, Option.or_eq_none_iff,
    Option.or_eq_none_iff, Option.map_eq_none_iff, Option.map_eq_none_iff,
    Option.map_eq_none_iff, List.find?_eq_none, List.find?_eq_none, List.find?_eq_none]
  simp only [Bool.and_eq_true, Bool.not_eq_true', Bool.not_eq_true]

/-- The questions by which it is seen whether two solutions are better than one another. -/
def mutualQuestions (R : S → S → Bool) (p : S × S) : List (S × S) :=
  (p.1, p.2) :: if R p.1 p.2 then [(p.2, p.1)] else []

/-- The questions by which it is seen whether a chain of two improvements breaks. -/
def chainQuestions (R : S → S → Bool) (t : S × S × S) : List (S × S) :=
  (t.1, t.2.1) ::
    if R t.1 t.2.1 then (t.2.1, t.2.2) :: if R t.2.1 t.2.2 then [(t.1, t.2.2)] else [] else []

/-- The questions of a validation, in order. `pairs` are looked at only if no single solution is
    better than itself, and `triples` only if no two solutions are better than one another. -/
def questions (R : S → S → Bool) (sample : List S) : List (S × S) :=
  checkQuestions (fun x => R x x) (fun x => [(x, x)]) sample ++
    if (sample.find? fun x => R x x).isSome then [] else
      checkQuestions (fun p => R p.1 p.2 && R p.2 p.1) (mutualQuestions R)
          (pairs sample) ++
        if ((pairs sample).find? fun p => R p.1 p.2 && R p.2 p.1).isSome then [] else
          checkQuestions (fun t => R t.1 t.2.1 && (R t.2.1 t.2.2 && !R t.1 t.2.2))
            (chainQuestions R) (triples sample)

/-- All questions are about solutions of the sample. -/
theorem mem_of_mem_questions {R : S → S → Bool} {sample : List S} {q : S × S}
    (hq : q ∈ questions R sample) : q.1 ∈ sample ∧ q.2 ∈ sample := by
  rcases List.mem_append.1 hq with hq | hq
  · obtain ⟨x, hx, hq⟩ := exists_of_mem_checkQuestions hq
    obtain rfl := List.mem_singleton.1 hq
    exact ⟨hx, hx⟩
  split at hq
  · simp at hq
  rcases List.mem_append.1 hq with hq | hq
  · obtain ⟨p, hp, hq⟩ := exists_of_mem_checkQuestions hq
    obtain ⟨ha, hb⟩ := mem_of_mem_pairs hp
    simp only [mutualQuestions, List.mem_cons, List.mem_ite_nil_right, List.not_mem_nil] at hq
    grind
  split at hq
  · simp at hq
  · obtain ⟨t, ht, hq⟩ := exists_of_mem_checkQuestions hq
    obtain ⟨hx, hy, hz⟩ := mem_of_mem_triples ht
    simp only [chainQuestions, List.mem_cons, List.mem_ite_nil_right, List.not_mem_nil] at hq
    grind

end Violation

namespace Comparator

variable [Candidate S]

/-- About solutions with `P` the comparator answers as `R` says, whenever it is asked. -/
def Answers (c : Comparator W S) (P : S → Prop) (R : S → S → Bool) : Prop :=
  ∀ a b, P a → P b → (c.isBetter a b).Gives (R a b)

variable {c : Comparator W S} {P : S → Prop} {R : S → S → Bool} {sample : List S}

theorem Answers.truthful (h : c.Answers P R) : c.Truthful P R := by
  intro a b ha hb state answer hanswer
  exact Except.ok.inj (hanswer.symm.trans (h a b ha hb state))

namespace Truthful

theorem asks_mutuallyBetter (h : c.Truthful P R) {a b : S} (ha : P a) (hb : P b) :
    c.Asks (c.mutuallyBetter a b) (Violation.mutualQuestions R (a, b)) (R a b && R b a) := by
  refine (h.asks ha hb).bind ?_
  cases R a b with
  | true => exact h.asks hb ha
  | false => exact .pure false

theorem asks_breaksChain (h : c.Truthful P R) {x y z : S} (hx : P x) (hy : P y) (hz : P z) :
    c.Asks (c.breaksChain x y z) (Violation.chainQuestions R (x, y, z))
      (R x y && (R y z && !R x z)) := by
  refine (h.asks hx hy).bind ?_
  dsimp only
  cases R x y with
  | false => exact .pure false
  | true =>
    refine (h.asks hy hz).bind ?_
    dsimp only
    cases R y z with
    | false => exact .pure false
    | true => exact (h.asks hx hz).map Bool.not

/-- A validation puts its `Violation.questions` in order, and then tells the first violation. -/
theorem asks_violation? (h : c.Truthful (· ∈ sample) R) :
    c.Asks (c.violation? sample) (Violation.questions R sample) (Violation.first? R sample) := by
  -- The result of each check decides whether there is a next one.
  refine ((asks_firstWhere fun x hx => h.asks hx hx).map _).bind ?_
  rw [Violation.first?]
  cases sample.find? fun x => R x x with
  | some x => exact .pure _
  | none =>
    refine ((asks_firstWhere fun p hp =>
      h.asks_mutuallyBetter (mem_of_mem_pairs hp).1 (mem_of_mem_pairs hp).2).map _).bind ?_
    cases (pairs sample).find? fun p => R p.1 p.2 && R p.2 p.1 with
    | some p => exact .pure _
    | none =>
      refine (asks_firstWhere fun t ht => ?_).map _
      obtain ⟨hx, hy, hz⟩ := mem_of_mem_triples ht
      exact h.asks_breaksChain hx hy hz

end Truthful

/-- A validation of a comparator that answers as a relation says finds the first violation. -/
theorem Answers.gives_violation? (h : c.Answers (· ∈ sample) R) :
    (c.violation? sample).Gives (Violation.first? R sample) := by
  refine h.truthful.asks_violation?.gives fun q hq => ?_
  obtain ⟨ha, hb⟩ := Violation.mem_of_mem_questions hq
  exact ⟨R q.1 q.2, h q.1 q.2 ha hb⟩

end Comparator

variable [Candidate S]

/-- A comparator passes its validation on a sample exactly if it is a strict partial order there,
    and the validation comes to an end. This is so for `is_valid`, and `R` is what the comparator
    answers. -/
theorem validation_decides_strictness {c : Comparator W S} {R : S → S → Bool} {sample : List S}
    (h : c.Answers (· ∈ sample) R) (state : HookState W S) :
    ∃ found, ((c.violation? sample).runAt state).1 = .ok found ∧
      (found.isNone ↔ StrictOn (· ∈ sample) R) :=
  ⟨_, h.gives_violation? state, Violation.first?_isNone⟩

/-! ## Three hands -/

/-- Solutions that all cost the same, each of which beats one of the others. -/
inductive Hand where
  | rock | paper | scissors
  deriving DecidableEq

namespace Hand

/-- The first hand beats the second one. -/
def beats : Hand → Hand → Bool
  | .rock, .scissors => true
  | .scissors, .paper => true
  | .paper, .rock => true
  | _, _ => false

instance : Candidate Hand where
  costs _ := .ok (.int 0)
  text _ := ""
  preference _ _ := .lowerCost

/-- The comparator that goes by the rules of the game. -/
def comparator : Comparator Unit Hand := .custom true fun a b => return beats a b

end Hand

/-- Two hands are in order, one of them listed twice; three hands go round in a circle. -/
theorem validation_decides_strictness_hands :
    StrictOn (· ∈ [Hand.rock, .scissors, .rock]) Hand.beats ∧
      ¬ StrictOn (· ∈ [Hand.rock, .scissors, .paper]) Hand.beats := by
  have hanswers : ∀ P, Hand.comparator.Answers P Hand.beats := fun _ _ _ _ _ _ => rfl
  obtain ⟨found, hfound, hstrict⟩ := validation_decides_strictness
    (hanswers (· ∈ [Hand.rock, .scissors, .rock])) ⟨(), #[], #[]⟩
  obtain ⟨found', hfound', hstrict'⟩ := validation_decides_strictness
    (hanswers (· ∈ [Hand.rock, .scissors, .paper])) ⟨(), #[], #[]⟩
  obtain rfl : none = found := Except.ok.inj hfound
  obtain rfl : some (.intransitive .rock .scissors .paper) = found' := Except.ok.inj hfound'
  exact ⟨hstrict.1 rfl, fun h => Bool.false_ne_true (hstrict'.2 h)⟩

end HillClimb
