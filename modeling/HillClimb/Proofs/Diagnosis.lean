import HillClimb.Proofs.Strictness
import Mathlib.Data.Prod.Lex
import Mathlib.Order.Bounds.Basic
import Mathlib.Order.Fin.Basic

set_option autoImplicit false

/-! # What a validation reports

A validation that comes to an end has looked at single solutions, at pairs and at triples in the
order of their places, so what it reports stands at the least places at which anything is wrong
(`Violation.First`). The warning that it logs names that (`LogRecord.WarnsOf`). A comparator that
fails ends the validation with its own failure, and nothing is logged. In either case the comparator
has been asked nothing after the question that settled the matter
(`validation_reports_first_violation`). -/

namespace HillClimb

variable {W S α β γ : Type}

/-! ## Places in order -/

theorem pairs_map (f : α → β) (xs : List α) :
    pairs (xs.map f) = (pairs xs).map (Prod.map f f) := by
  induction xs with
  | nil => rfl
  | cons x xs ih => simp [pairs, ih]

theorem selections_map (f : α → β) (xs : List α) :
    selections (xs.map f) = (selections xs).map (Prod.map f (List.map f)) := by
  induction xs with
  | nil => rfl
  | cons x xs ih => simp [selections, ih]

theorem triples_map (f : α → β) (xs : List α) :
    triples (xs.map f) = (triples xs).map (Prod.map f (Prod.map f f)) := by
  simp only [triples, selections_map, List.flatMap_map, List.map_flatMap, List.map_map,
    Prod.map_fst, Prod.map_snd]
  rfl

theorem map_fst_selections (xs : List α) : (selections xs).map Prod.fst = xs := by
  induction xs with
  | nil => rfl
  | cons x xs ih =>
    rw [selections, List.map_cons, List.map_map]
    exact congrArg (x :: ·) ih

theorem sublist_of_mem_selections {x : α} {others xs : List α} (h : (x, others) ∈ selections xs) :
    others.Sublist xs := by
  induction xs generalizing others with
  | nil => simp [selections] at h
  | cons z zs ih =>
    rcases mem_selections_cons.1 h with ⟨rfl, rfl⟩ | ⟨rest, hsel, rfl⟩
    · exact List.sublist_cons_self _ _
    · exact (ih hsel).cons_cons z

theorem not_mem_of_mem_selections {x : α} {others xs : List α} (hnodup : xs.Nodup)
    (h : (x, others) ∈ selections xs) : x ∉ others := by
  induction xs generalizing others with
  | nil => simp [selections] at h
  | cons z zs ih =>
    obtain ⟨hz, hzs⟩ := List.nodup_cons.1 hnodup
    rcases mem_selections_cons.1 h with ⟨rfl, rfl⟩ | ⟨rest, hsel, rfl⟩
    · exact hz
    · rw [List.mem_cons, not_or]
      refine ⟨?_, ih hzs hsel⟩
      rintro rfl
      exact hz (mem_selections hsel).1

/-- Where nothing is listed twice, the triples are those of three different elements. -/
theorem mem_triples_iff {a b c : α} {xs : List α} (hnodup : xs.Nodup) :
    (a, b, c) ∈ triples xs ↔
      (a ∈ xs ∧ b ∈ xs ∧ c ∈ xs) ∧ a ≠ b ∧ a ≠ c ∧ b ≠ c := by
  constructor
  · intro h
    refine ⟨mem_of_mem_triples h, ?_⟩
    obtain ⟨others, rest, ha, hb, hc⟩ := mem_triples_iff_selections.1 h
    have ha' := not_mem_of_mem_selections hnodup ha
    have hb' := not_mem_of_mem_selections ((sublist_of_mem_selections ha).nodup hnodup) hb
    have hmem := mem_selections hb
    exact ⟨fun h => ha' (h ▸ hmem.1), fun h => ha' (h ▸ hmem.2 _ hc), fun h => hb' (h ▸ hc)⟩
  · rintro ⟨⟨ha, hb, hc⟩, hab, hac, hbc⟩
    exact mem_triples ha hb hc hab.symm hac.symm hbc.symm

section

variable [LinearOrder α] {xs : List α}

theorem mem_pairs_iff {a b : α} (hsorted : xs.Pairwise (· < ·)) :
    (a, b) ∈ pairs xs ↔ (a ∈ xs ∧ b ∈ xs) ∧ a < b := by
  constructor
  · intro h
    exact ⟨mem_of_mem_pairs h, (forall_mem_pairs (Q := fun p => p.1 < p.2)).2 hsorted _ h⟩
  · rintro ⟨⟨ha, hb⟩, hab⟩
    induction xs with
    | nil => simp at ha
    | cons x xs ih =>
      obtain ⟨hx, hxs⟩ := List.pairwise_cons.1 hsorted
      rw [pairs, List.mem_append]
      rcases List.mem_cons.1 ha with rfl | ha
      · have hb : b ∈ xs := (List.mem_cons.1 hb).resolve_left hab.ne'
        exact .inl (List.mem_map_of_mem hb)
      · have hb : b ∈ xs := (List.mem_cons.1 hb).resolve_left ((hx a ha).trans hab).ne'
        exact .inr (ih hxs ha hb)

/-- The `pairs` of an increasing list increase. -/
theorem pairwise_pairs (hsorted : xs.Pairwise (· < ·)) :
    (pairs xs).Pairwise fun p q => toLex p < toLex q := by
  induction xs with
  | nil => exact .nil
  | cons x xs ih =>
    obtain ⟨hx, hxs⟩ := List.pairwise_cons.1 hsorted
    rw [pairs, List.pairwise_append, List.pairwise_map]
    refine ⟨?_, ih hxs, ?_⟩
    · exact hxs.imp fun h => by simp [Prod.Lex.toLex_lt_toLex, h]
    intro p hp q hq
    obtain ⟨y, -, rfl⟩ := List.mem_map.1 hp
    exact Prod.Lex.toLex_lt_toLex.2 (.inl (hx q.1 (mem_of_mem_pairs hq).1))

theorem pairwise_selections (hsorted : xs.Pairwise (· < ·)) :
    (selections xs).Pairwise fun s t => s.1 < t.1 := by
  rw [← map_fst_selections xs] at hsorted
  exact List.pairwise_map.1 hsorted

/-- The `triples` of an increasing list increase. -/
theorem pairwise_triples (hsorted : xs.Pairwise (· < ·)) :
    (triples xs).Pairwise fun s t => toLex (s.1, toLex s.2) < toLex (t.1, toLex t.2) := by
  refine List.pairwise_flatMap.2 ⟨fun s hs => List.pairwise_flatMap.2 ⟨fun t ht => ?_, ?_⟩, ?_⟩
  · -- Triples that differ in the third element only.
    have hrest := (hsorted.sublist (sublist_of_mem_selections hs)).sublist
      (sublist_of_mem_selections ht)
    exact List.pairwise_map.2 (hrest.imp fun h => by simp [Prod.Lex.toLex_lt_toLex, h])
  · -- Triples that differ in the second one.
    refine (pairwise_selections (hsorted.sublist (sublist_of_mem_selections hs))).imp ?_
    intro t t' h p hp q hq
    obtain ⟨z, -, rfl⟩ := List.mem_map.1 hp
    obtain ⟨z', -, rfl⟩ := List.mem_map.1 hq
    simp [Prod.Lex.toLex_lt_toLex, h]
  · -- Triples that differ in the first one.
    refine (pairwise_selections hsorted).imp ?_
    intro s s' h p hp q hq
    obtain ⟨t, -, hp⟩ := List.mem_flatMap.1 hp
    obtain ⟨z, -, rfl⟩ := List.mem_map.1 hp
    obtain ⟨t', -, hq⟩ := List.mem_flatMap.1 hq
    obtain ⟨z', -, rfl⟩ := List.mem_map.1 hq
    exact Prod.Lex.toLex_lt_toLex.2 (.inl h)

end

/-- What a search of an increasing list finds first is the least of what there is to find. -/
theorem isLeast_of_find? [LinearOrder γ] {f : α → γ} {passes : α → Bool} {xs : List α} {a : α}
    (hsorted : xs.Pairwise fun a b => f a < f b) (hfind : xs.find? passes = some a) :
    IsLeast {g | ∃ x ∈ xs, passes x ∧ f x = g} (f a) := by
  obtain ⟨ha, before, after, rfl, hbefore⟩ := List.find?_eq_some_iff_append.1 hfind
  refine ⟨⟨a, by simp, ha, rfl⟩, ?_⟩
  rintro _ ⟨b, hb, hpasses, rfl⟩
  rcases List.mem_append.1 hb with hb | hb
  · exact absurd hpasses (by simpa using hbefore b hb)
  · rcases List.mem_cons.1 hb with rfl | hb
    · exact le_rfl
    · exact ((List.pairwise_cons.1 (List.pairwise_append.1 hsorted).2.1).1 b hb).le

theorem eq_empty_of_find? {f : α → γ} {passes : α → Bool} {xs : List α}
    (hfind : xs.find? passes = none) : {g | ∃ x ∈ xs, passes x ∧ f x = g} = ∅ := by
  refine Set.eq_empty_of_forall_notMem ?_
  rintro _ ⟨x, hx, hpasses, -⟩
  exact List.find?_eq_none.1 hfind x hx hpasses

/-! ## The first violation -/

section

variable (R : S → S → Bool) (sample : List S)

/-- The places of the solutions that are better than themselves: what `is_irreflexive` looks for. -/
def reflexivePlaces : Set (Fin sample.length) := {i | R sample[i] sample[i]}

/-- The increasing places of two solutions that are better than one another: what `is_asymmetric`
    looks for. -/
def symmetricPlaces : Set (Fin sample.length ×ₗ Fin sample.length) :=
  {p | ∃ i j, i < j ∧ R sample[i] sample[j] ∧ R sample[j] sample[i] ∧ toLex (i, j) = p}

/-- The different places of three solutions that make a chain of two improvements without being an
    improvement as a whole: what `is_transitive` looks for. -/
def intransitivePlaces : Set (Fin sample.length ×ₗ Fin sample.length ×ₗ Fin sample.length) :=
  {t | ∃ i j k, (i ≠ j ∧ i ≠ k ∧ j ≠ k) ∧
    (R sample[i] sample[j] ∧ R sample[j] sample[k] ∧ ¬ R sample[i] sample[k]) ∧
    toLex (i, toLex (j, k)) = t}

namespace Violation

/-- The violation is the first one: the order is tried for irreflexivity, then for asymmetry, then
    for transitivity, and in each respect by the order of the places. -/
inductive First : Violation S → Prop where
  | reflexive {i : Fin sample.length} (least : IsLeast (reflexivePlaces R sample) i) :
      First (.reflexive sample[i])
  | symmetric {i j : Fin sample.length} (irreflexive : reflexivePlaces R sample = ∅)
      (least : IsLeast (symmetricPlaces R sample) (toLex (i, j))) :
      First (.symmetric sample[i] sample[j])
  | intransitive {i j k : Fin sample.length} (irreflexive : reflexivePlaces R sample = ∅)
      (asymmetric : symmetricPlaces R sample = ∅)
      (least : IsLeast (intransitivePlaces R sample) (toLex (i, toLex (j, k)))) :
      First (.intransitive sample[i] sample[j] sample[k])

end Violation

end

/-! ## The warning -/

/-- The text names the violation: which part of a strict order fails, and the solutions at which it
    does. -/
inductive Violation.Named [Candidate S] : Violation S → String → Prop where
  | reflexive (x : S) : Named (.reflexive x)
      ("Relação não é irreflexiva: " ++ Candidate.text x ++ " é melhor que si mesma.")
  | symmetric (a b : S) : Named (.symmetric a b)
      ("Relação não é assimétrica: " ++ Candidate.text a ++ " e " ++ Candidate.text b ++
        " são melhores uma que a outra.")
  | intransitive (a b c : S) : Named (.intransitive a b c)
      ("Relação não é transitiva: " ++ Candidate.text a ++ " > " ++ Candidate.text b ++ " > " ++
        Candidate.text c ++ ", mas não " ++ Candidate.text a ++ " > " ++ Candidate.text c ++ ".")

/-- The record is the validator's `WARNING` of the violation, and shows a text that names it. -/
structure LogRecord.WarnsOf [Candidate S] (r : LogRecord) (v : Violation S) : Prop where
  level : r.level = Level.warning
  source : r.source = .validation
  named : ∃ text, r.text? = some text ∧ v.Named text

theorem Violation.warnsOf_record [Candidate S] (v : Violation S) : v.record.WarnsOf v := by
  refine ⟨rfl, rfl, v.message, rfl, ?_⟩
  cases v with
  | reflexive x => exact .reflexive x
  | symmetric a b => exact .symmetric a b
  | intransitive a b c => exact .intransitive a b c

/-! ## The places that are looked at -/

/-- A list is read off place by place. -/
theorem map_places (sample : List S) :
    (List.finRange sample.length).map (fun i => sample[i]) = sample :=
  List.map_getElem_finRange sample

section

variable {R : S → S → Bool} {sample : List S}

/-! A search of solutions, pairs or triples is a search of places. -/

theorem find?_places (passes : S → Bool) :
    sample.find? passes = ((List.finRange sample.length).find? fun i => passes sample[i]).map
      fun i => sample[i] := by
  conv_lhs => rw [← map_places sample]
  rw [List.find?_map]
  rfl

theorem find?_pairs_places (passes : S × S → Bool) :
    (pairs sample).find? passes =
      ((pairs (List.finRange sample.length)).find? fun p => passes (sample[p.1], sample[p.2])).map
        fun p => (sample[p.1], sample[p.2]) := by
  conv_lhs => rw [← map_places sample, pairs_map]
  rw [List.find?_map]
  rfl

theorem find?_triples_places (passes : S × S × S → Bool) :
    (triples sample).find? passes =
      ((triples (List.finRange sample.length)).find? fun t =>
        passes (sample[t.1], sample[t.2.1], sample[t.2.2])).map
          fun t => (sample[t.1], sample[t.2.1], sample[t.2.2]) := by
  conv_lhs => rw [← map_places sample, triples_map]
  rw [List.find?_map]
  rfl

theorem reflexivePlaces_eq :
    reflexivePlaces R sample =
      {g | ∃ i ∈ List.finRange sample.length, R sample[i] sample[i] ∧ i = g} := by
  ext i
  simp [reflexivePlaces]

theorem symmetricPlaces_eq :
    symmetricPlaces R sample = {g | ∃ p ∈ pairs (List.finRange sample.length),
      (R sample[p.1] sample[p.2] && R sample[p.2] sample[p.1]) ∧ toLex p = g} := by
  ext g
  simp [symmetricPlaces, mem_pairs_iff (List.pairwise_lt_finRange _), and_assoc]

theorem intransitivePlaces_eq :
    intransitivePlaces R sample = {g | ∃ t ∈ triples (List.finRange sample.length),
      (R sample[t.1] sample[t.2.1] && (R sample[t.2.1] sample[t.2.2] &&
        !R sample[t.1] sample[t.2.2])) ∧ toLex (t.1, toLex t.2) = g} := by
  ext g
  simp [intransitivePlaces, mem_triples_iff (List.nodup_finRange _), and_assoc]

/-- The violation that a validation comes upon, by `Violation.first?`, is the first one. -/
theorem Violation.first_of_first? {v : Violation S} (h : Violation.first? R sample = some v) :
    Violation.First R sample v := by
  have hsorted := List.pairwise_lt_finRange sample.length
  rw [Violation.first?, find?_places, find?_pairs_places, find?_triples_places] at h
  cases hi : (List.finRange sample.length).find? fun i => R sample[i] sample[i] with
  | some i =>
    rw [hi] at h
    obtain rfl := Option.some.inj h
    exact .reflexive (reflexivePlaces_eq ▸ isLeast_of_find? (f := id) hsorted hi)
  | none =>
    have hirrefl : reflexivePlaces R sample = ∅ :=
      reflexivePlaces_eq.trans (eq_empty_of_find? (f := id) hi)
    rw [hi] at h
    cases hp : (pairs (List.finRange sample.length)).find? fun p =>
        R sample[p.1] sample[p.2] && R sample[p.2] sample[p.1] with
    | some p =>
      rw [hp] at h
      obtain rfl := Option.some.inj h
      exact .symmetric hirrefl (symmetricPlaces_eq ▸ isLeast_of_find? (pairwise_pairs hsorted) hp)
    | none =>
      have hasymm : symmetricPlaces R sample = ∅ :=
        symmetricPlaces_eq.trans (eq_empty_of_find? hp)
      rw [hp] at h
      obtain ⟨_, hfound, rfl⟩ := Option.map_eq_some_iff.1 h
      obtain ⟨t, ht, rfl⟩ := Option.map_eq_some_iff.1 hfound
      exact .intransitive hirrefl hasymm
        (intransitivePlaces_eq ▸ isLeast_of_find? (pairwise_triples hsorted) ht)

end

/-! ## The last questions -/

/-- A check that something fails ends with the questions about that. -/
theorem isSuffix_checkQuestions {fails : α → Bool} (about : α → List (S × S)) {xs : List α} {x : α}
    (h : xs.find? fails = some x) : about x <:+ checkQuestions fails about xs := by
  induction xs with
  | nil => simp at h
  | cons y ys ih =>
    rw [checkQuestions, List.findIdx_cons]
    cases hy : fails y with
    | true =>
      rw [List.find?_cons_of_pos hy] at h
      obtain rfl := Option.some.inj h
      simp
    | false =>
      rw [List.find?_cons_of_neg (by simp [hy])] at h
      exact (ih h).trans (List.suffix_append _ _)

namespace Violation

/-- The questions by which a violation is recognised, the last ones of a validation that finds
    it. -/
def settling : Violation S → List (S × S)
  | .reflexive x => [(x, x)]
  | .symmetric a b => [(a, b), (b, a)]
  | .intransitive a b c => [(a, b), (b, c), (a, c)]

variable {R : S → S → Bool} {sample : List S}

theorem settling_isSuffix {v : Violation S} (h : first? R sample = some v) :
    v.settling <:+ questions R sample := by
  rw [first?] at h
  rw [questions]
  cases hx : sample.find? fun x => R x x with
  | some x =>
    rw [hx] at h
    obtain rfl := Option.some.inj h
    simpa [settling] using isSuffix_checkQuestions (fun x => [(x, x)]) hx
  | none =>
    rw [hx] at h
    refine .trans ?_ (List.suffix_append _ _)
    cases hp : (pairs sample).find? fun p => R p.1 p.2 && R p.2 p.1 with
    | some p =>
      rw [hp] at h
      obtain rfl := Option.some.inj h
      have hmutual := List.find?_some hp
      have hlast := isSuffix_checkQuestions (mutualQuestions R) hp
      simp_all [mutualQuestions, settling]
    | none =>
      rw [hp] at h
      obtain ⟨t, ht, rfl⟩ := Option.map_eq_some_iff.1 h
      have hbreaks := List.find?_some ht
      have hlast := isSuffix_checkQuestions (chainQuestions R) ht
      refine .trans ?_ (List.suffix_append _ _)
      simp_all [chainQuestions, settling]

end Violation

/-! ## Validations that end -/

namespace Comparator

variable [Candidate S] {c : Comparator W S}

/-- Questions that are not all answered were all answered up to one at which the comparator
    failed. -/
theorem exists_of_askAll_failed {questions : List (S × S)} {state state' : HookState W S}
    {cause : Failure}
    (h : (c.askAll questions).runAt state = (.error cause, state')) :
    ∃ asked a b rest, questions = asked ++ (a, b) :: rest ∧
      ∃ midway, (c.askAll asked).runAt state = (.ok (), midway) ∧
        (c.isBetter a b).runAt midway = (.error cause, state') := by
  induction questions generalizing state with
  | nil =>
    have hok : (.ok () : Except Failure Unit) = .error cause := congrArg Prod.fst h
    contradiction
  | cons q questions ih =>
    obtain ⟨a, b⟩ := q
    rw [askAll, Hook.run_bind] at h
    rcases hq : (c.isBetter a b).runAt state with ⟨cause' | answer, state''⟩
    · rw [hq] at h
      obtain ⟨hcause, rfl⟩ := Prod.mk.inj h
      obtain rfl := Except.error.inj hcause
      exact ⟨[], a, b, questions, rfl, state, rfl, hq⟩
    · rw [hq] at h
      obtain ⟨asked, a', b', rest, rfl, midway, hasked, hfails⟩ := ih h
      refine ⟨(a, b) :: asked, a', b', rest, rfl, midway, ?_, hfails⟩
      rw [askAll, Hook.run_bind, hq]
      exact hasked

end Comparator

section

variable [Candidate S] {c : Comparator W S} {R : S → S → Bool} {sample : List S}

/-- What a validation of a comparator comes to that answers as `R` says but may fail at any
    question. The comparator is asked the `Violation.questions`, in order and no others. If it fails
    at one of them, that is the last one, its failure is that of the validation, and nothing is
    logged. Else the validation passes a comparator that is strict on the sample, without logging
    anything, and of any other one it logs a single warning, if warnings are written: it `WarnsOf`
    the first violation, which its last questions have settled. -/
theorem validation_reports_first_violation (h : c.Truthful (· ∈ sample) R) (level : Int)
    (state : HookState W S) :
    let (found, left) := (c.violation? sample).runAt state
    let finding := Finding.of level found
    let questions := Violation.questions R sample
    match finding.passed with
    | .error cause => finding.records = [] ∧
        ∃ asked a b rest, questions = asked ++ (a, b) :: rest ∧
          ∃ midway, (c.askAll asked).runAt state = (.ok (), midway) ∧
            (c.isBetter a b).runAt midway = (.error cause, left)
    | .ok true => finding.records = [] ∧ StrictOn (· ∈ sample) R ∧
        (c.askAll questions).runAt state = (.ok (), left)
    | .ok false => ∃ v r, Violation.First R sample v ∧ r.WarnsOf v ∧
        finding.records = (if level ≤ Level.warning then [r] else []) ∧
        v.settling <:+ questions ∧ (c.askAll questions).runAt state = (.ok (), left) := by
  rw [show c.violation? sample = _ from h.asks_violation?, Hook.run_bind]
  rcases hasked : (c.askAll (Violation.questions R sample)).runAt state with ⟨cause | u, left⟩
  · exact ⟨rfl, Comparator.exists_of_askAll_failed hasked⟩
  · cases hfirst : Violation.first? R sample with
    | none =>
      exact ⟨rfl, Violation.first?_isNone.1 (Option.isNone_iff_eq_none.2 hfirst), hasked⟩
    | some v =>
      refine ⟨v, v.record, Violation.first_of_first? hfirst, v.warnsOf_record, ?_,
        Violation.settling_isSuffix hfirst, hasked⟩
      have hlevel : v.record.level = Level.warning := rfl
      simp [Finding.of, hlevel, List.filter_cons]

end

/-! ## A game that may be broken off -/

namespace Hand

/-- The comparator that goes by the rules of the game, as often as the world says. -/
def limited : Comparator Nat Hand := .custom true fun a b => do
  match ← Hook.world with
  | 0 => throw (.raised (.other "TimeoutError") "game over")
  | rounds + 1 => do
    Hook.change fun _ => rounds
    return beats a b

theorem truthful_limited (P : Hand → Prop) : limited.Truthful P beats := by
  rintro a b - - ⟨rounds, generators, probes⟩ answer hanswer
  cases rounds with
  | zero => contradiction
  | succ rounds => exact (Except.ok.inj hanswer).symm

end Hand

/-- Three hands go round in a circle, which is seen at the eleventh question; after ten the game is
    broken off. -/
theorem validation_reports_first_violation_hands :
    let sample := [Hand.rock, .scissors, .paper]
    let outcome rounds := ((Hand.limited.violation? sample).runAt ⟨rounds, #[], #[]⟩).1
    (∃ v r, Violation.First Hand.beats sample v ∧ r.WarnsOf v ∧
      (Finding.of Level.warning (outcome 11)).records = [r]) ∧
    (Finding.of Level.warning (outcome 10)).records = [] := by
  intro sample outcome
  have hreports := fun rounds : Nat => validation_reports_first_violation
    (Hand.truthful_limited (· ∈ sample)) Level.warning ⟨rounds, #[], #[]⟩
  obtain ⟨v, r, hfirst, hwarns, hrecords, -⟩ := hreports 11
  obtain ⟨hrecords', -⟩ := hreports 10
  exact ⟨⟨v, r, hfirst, hwarns, hrecords⟩, hrecords'⟩

end HillClimb
