import HillClimb.Proofs.Actions
import Mathlib.Data.List.DropRight

set_option autoImplicit false

/-! # The history of a search

The transcript of a machine tells what a search has been through.

* A *commit* is the choice of an initial solution or the decision on a neighbour (`Entry.isCommit`).
* A *stretch* is a choice with all the decisions that came after it and before the next choice
  (`Stretch`). `stretchOf` finds the present one, and `Stretch.current` is where it has led to.
* What is seen of a solver at a moment should be what the present stretch says, so the statements
  about sights compare each of them with the entries that stand before it (`EverySight`).

`Machine.Aside` and `Machine.Unseen` are two ways for time to pass: beside the solver, and while
nobody looks at it. -/

namespace HillClimb

variable {W I S α : Type}

/-- All that happened on a machine, in order: its transcript as a list. -/
def Machine.past (m : Machine W I S) : List (Entry S) := m.transcript.toList

namespace Entry

/-- Whether the entry tells of a commit, that is, is a `started` or a `decided`. -/
def isCommit : Entry S → Bool
  | .started _ => true
  | .decided .. => true
  | _ => false

/-- Whether the count of rejections was overwritten from outside. -/
def isOverwriting : Entry S → Bool
  | .overwritten _ => true
  | _ => false

/-- Whether an observer was told news. -/
def isNotice : Entry S → Bool
  | .notified .. => true
  | _ => false

/-- The `Sight` of whoever looked, if anyone did. -/
def sight? : Entry S → Option (Sight S)
  | .notified _ _ _ seen => some seen
  | .stopAsked seen => some seen
  | .looked seen => some seen
  | .read _ seen => some seen
  | .resumed seen => some seen
  | _ => none

/-- Whether the entry tells only of a call, of a hook that was asked, or of a hook's question. -/
def isWork : Entry S → Bool
  | .startCalled => true
  | .stepCalled => true
  | .probed _ => true
  | .initialAsked => true
  | .neighborAsked _ => true
  | .acceptanceAsked .. => true
  | _ => false

theorem isCommit_of_isWork {e : Entry S} (h : e.isWork) : e.isCommit = false := by
  cases e <;> simp_all [isWork, isCommit]

theorem isOverwriting_of_isWork {e : Entry S} (h : e.isWork) : e.isOverwriting = false := by
  cases e <;> simp_all [isWork, isOverwriting]

theorem sight?_of_isWork {e : Entry S} (h : e.isWork) : e.sight? = none := by
  cases e <;> simp_all [isWork, sight?]

theorem isCommit_of_sight? {e : Entry S} {seen : Sight S} (h : e.sight? = some seen) :
    e.isCommit = false ∧ e.isOverwriting = false := by
  cases e <;> simp_all [sight?, isCommit, isOverwriting]

end Entry

/-! ## Stretches -/

/-- A choice of an initial solution and the decisions after it, the oldest first: the neighbours
    that were tried, and whether they were accepted. -/
structure Stretch (S : Type) where
  initial : S
  decisions : List (S × Bool)
  deriving DecidableEq

namespace Stretch

/-- All solutions that were made, in order. -/
def generated (st : Stretch S) : List S := st.initial :: st.decisions.map Prod.fst

/-- Where the stretch has led to: the neighbour accepted last, or else the initial solution. -/
def current (st : Stretch S) : S :=
  ((st.decisions.filter Prod.snd).getLast?.map Prod.fst).getD st.initial

/-- How many decisions at the end of the stretch are rejections. This is what the `stagnation` of a
    solver should count. -/
def rejections (st : Stretch S) : Nat := (st.decisions.rtakeWhile fun d => !d.2).length

/-- The stretch with one more decision. -/
def decide (st : Stretch S) (neighbor : S) (accepted : Bool) : Stretch S :=
  { st with decisions := st.decisions ++ [(neighbor, accepted)] }

@[simp] theorem current_decide (st : Stretch S) (neighbor : S) (accepted : Bool) :
    (st.decide neighbor accepted).current = if accepted then neighbor else st.current := by
  cases accepted <;> simp [decide, current, List.filter_append]

@[simp] theorem rejections_decide (st : Stretch S) (neighbor : S) (accepted : Bool) :
    (st.decide neighbor accepted).rejections = if accepted then 0 else st.rejections + 1 := by
  cases accepted <;> simp [decide, rejections]

@[simp] theorem length_decide (st : Stretch S) (neighbor : S) (accepted : Bool) :
    (st.decide neighbor accepted).decisions.length = st.decisions.length + 1 := by
  simp [decide]

theorem rejections_le (st : Stretch S) : st.rejections ≤ st.decisions.length :=
  (List.rtakeWhile_suffix _ _).length_le

/-- What an entry makes of the stretch: a choice begins a new one, a decision goes on with it. -/
def after (st : Option (Stretch S)) : Entry S → Option (Stretch S)
  | .started s => some ⟨s, []⟩
  | .decided neighbor accepted => st.map (·.decide neighbor accepted)
  | _ => st

theorem after_of_not_isCommit (st : Option (Stretch S)) {e : Entry S} (h : e.isCommit = false) :
    after st e = st := by
  cases e <;> simp_all [after, Entry.isCommit]

end Stretch

/-- The stretch that a search is in, if it was ever started: `Stretch.after` along all that
    happened. -/
def stretchOf (past : List (Entry S)) : Option (Stretch S) := past.foldl Stretch.after none

/-- How many decisions there are in the present stretch. This is what `number_of_steps` should
    be. -/
def decisionsOf (past : List (Entry S)) : Nat :=
  (stretchOf past).elim 0 fun st => st.decisions.length

/-- How many rejections in a row the present stretch ends with. -/
def rejectionsOf (past : List (Entry S)) : Nat := (stretchOf past).elim 0 Stretch.rejections

theorem rejectionsOf_le (past : List (Entry S)) : rejectionsOf past ≤ decisionsOf past := by
  unfold rejectionsOf decisionsOf
  cases stretchOf past with
  | none => exact Nat.le_refl 0
  | some st => exact st.rejections_le

theorem stretchOf_concat (past : List (Entry S)) (e : Entry S) :
    stretchOf (past ++ [e]) = Stretch.after (stretchOf past) e := by
  simp [stretchOf]

theorem stretchOf_append (past : List (Entry S)) {l : List (Entry S)}
    (h : ∀ e ∈ l, e.isCommit = false) : stretchOf (past ++ l) = stretchOf past := by
  induction l generalizing past with
  | nil => rw [List.append_nil]
  | cons e l ih =>
    rw [List.append_cons, ih _ fun e' he' => h e' (List.mem_cons_of_mem _ he'), stretchOf_concat,
      Stretch.after_of_not_isCommit _ (h e List.mem_cons_self)]

/-- A search is in a stretch if and only if an initial solution was chosen. -/
theorem isSome_stretchOf (past : List (Entry S)) :
    (stretchOf past).isSome ↔ ∃ s, Entry.started s ∈ past := by
  induction past using List.reverseRecOn with
  | nil => simp [stretchOf]
  | append_singleton past e ih =>
    rw [stretchOf_concat]
    cases e <;> simp [Stretch.after, ih]

/-! ## Entries in their places -/

/-- Every entry has `P` with those that stand before it. -/
def Everywhere (P : List (Entry S) → Entry S → Prop) (past : List (Entry S)) : Prop :=
  ∀ before e after, past = before ++ e :: after → P before e

namespace Everywhere

variable {P : List (Entry S) → Entry S → Prop} {past l : List (Entry S)}

theorem nil : Everywhere P [] := by
  intro before e after h
  simp at h

theorem concat {e : Entry S} (h : Everywhere P past) (he : P past e) :
    Everywhere P (past ++ [e]) := by
  intro before e' after hsplit
  -- The entry is the new one, or it stands in the old history.
  rcases List.eq_nil_or_concat after with rfl | ⟨after', last, rfl⟩
  · obtain ⟨rfl, hlast⟩ := List.append_inj' hsplit rfl
    obtain rfl : e = e' := by simpa using hlast
    exact he
  · have hcut : past ++ [e] = (before ++ e' :: after') ++ [last] := by
      simpa using hsplit
    obtain ⟨rfl, -⟩ := List.append_inj' hcut rfl
    exact h before e' after' rfl

theorem append (h : Everywhere P past) (hl : ∀ e ∈ l, ∀ before, P before e) :
    Everywhere P (past ++ l) := by
  induction l generalizing past with
  | nil => rwa [List.append_nil]
  | cons e l ih =>
    rw [List.append_cons]
    exact ih (h.concat (hl e List.mem_cons_self past))
      fun e' he' => hl e' (List.mem_cons_of_mem _ he')

theorem of_append (h : Everywhere P (past ++ l)) : Everywhere P past := by
  intro before e after hsplit
  refine h before e (after ++ l) ?_
  rw [hsplit, List.append_assoc, List.cons_append]

end Everywhere

/-- Every sight has `R` with the entries that stand before it. -/
def EverySight (R : List (Entry S) → Entry S → Sight S → Prop) (past : List (Entry S)) : Prop :=
  Everywhere (fun before e => ∀ seen, e.sight? = some seen → R before e seen) past

theorem EverySight.append {R : List (Entry S) → Entry S → Sight S → Prop}
    {past l : List (Entry S)} (h : EverySight R past) (hl : ∀ e ∈ l, e.sight? = none) :
    EverySight R (past ++ l) :=
  Everywhere.append h fun e he before seen hseen => by
    rw [hl e he] at hseen
    cases hseen

/-! ## Costs -/

/-- No `costs()` that was called failed. -/
def CostsKnown [Candidate S] (past : List (Entry S)) : Prop :=
  ∀ s, Entry.probed (.costs s) ∈ past → ∃ v, Candidate.costs s = .ok v

theorem CostsKnown.not_failed [Candidate S] {past : List (Entry S)} (h : CostsKnown past) {s : S}
    (hs : Entry.probed (.costs s) ∈ past) (cause : Failure) : Candidate.costs s ≠ .error cause := by
  obtain ⟨v, hv⟩ := h s hs
  rw [hv]
  exact fun h => nomatch h

theorem CostsKnown.of_append [Candidate S] {past l : List (Entry S)}
    (h : CostsKnown (past ++ l)) : CostsKnown past :=
  fun s hs => h s (List.mem_append_left l hs)

/-! ## Work beside the solver -/

/-- The second machine is what the first becomes by work beside the solver: by hooks that are run
    and records that are written. The transcript grows by entries that are `Entry.isWork`. -/
structure Machine.Aside (m m' : Machine W I S) : Prop where
  solver : m'.solver = m.solver
  recordings : m'.recordings = m.recordings
  level : m'.level = m.level
  past : ∃ work : List (Entry S), (∀ e ∈ work, e.isWork) ∧ m'.past = m.past ++ work

namespace Machine.Aside

theorem refl (m : Machine W I S) : m.Aside m :=
  ⟨rfl, rfl, rfl, [], by simp, by simp⟩

theorem trans {m m₁ m₂ : Machine W I S} (h : m.Aside m₁) (h₁ : m₁.Aside m₂) : m.Aside m₂ := by
  obtain ⟨work, hwork, hpast⟩ := h.past
  obtain ⟨work₁, hwork₁, hpast₁⟩ := h₁.past
  refine ⟨h₁.solver.trans h.solver, h₁.recordings.trans h.recordings, h₁.level.trans h.level,
    work ++ work₁, ?_, ?_⟩
  · intro e he
    rcases List.mem_append.1 he with he | he
    · exact hwork e he
    · exact hwork₁ e he
  · rw [hpast₁, hpast, List.append_assoc]

theorem note (m : Machine W I S) {e : Entry S} (he : e.isWork) :
    m.Aside { m with transcript := m.transcript.push e } :=
  ⟨rfl, rfl, rfl, [e], by simpa using he, by simp [Machine.past]⟩

theorem log (m : Machine W I S) (level : Int) (source : LogSource) (message : String)
    (arguments : List (Option String)) :
    m.Aside ((Action.log level source message arguments).runOn m).2 := by
  rw [Action.run_log]
  dsimp only
  split
  · exact ⟨rfl, rfl, rfl, [], by simp, by simp [Machine.past]⟩
  · exact .refl m

/-- The questions of a hook are all that a hook leaves in the transcript. -/
theorem hook (h : Hook W S α) (m : Machine W I S) : m.Aside ((Action.hook h).runOn m).2 := by
  refine ⟨rfl, rfl, rfl,
    ((h.runAt ⟨m.world, m.generators, #[]⟩).2.probes.map Entry.probed).toList, ?_, ?_⟩
  · intro e he
    obtain ⟨p, -, rfl⟩ : ∃ p, p ∈ (h.runAt ⟨m.world, m.generators, #[]⟩).2.probes ∧
        Entry.probed p = e := by simpa using he
    rfl
  · exact Array.toList_append

theorem stretch {m m' : Machine W I S} (h : m.Aside m') :
    stretchOf m'.past = stretchOf m.past := by
  obtain ⟨work, hwork, hpast⟩ := h.past
  rw [hpast]
  exact stretchOf_append m.past fun e he => Entry.isCommit_of_isWork (hwork e he)

end Machine.Aside

/-- The second machine is what the first becomes while nobody looks at it, nor overwrites
    anything. -/
structure Machine.Unseen (m m' : Machine W I S) : Prop where
  observers : m'.solver.observers = m.solver.observers
  recordings : m'.recordings = m.recordings
  level : m'.level = m.level
  past : ∃ l : List (Entry S), (∀ e ∈ l, e.sight? = none ∧ e.isOverwriting = false) ∧
    m'.past = m.past ++ l

namespace Machine.Unseen

variable {m m₁ m' : Machine W I S}

theorem trans (h : m.Unseen m₁) (h₁ : m₁.Unseen m') : m.Unseen m' := by
  obtain ⟨l, hl, hpast⟩ := h.past
  obtain ⟨l₁, hl₁, hpast₁⟩ := h₁.past
  refine ⟨h₁.observers.trans h.observers, h₁.recordings.trans h.recordings,
    h₁.level.trans h.level, l ++ l₁, ?_, ?_⟩
  · intro e he
    rcases List.mem_append.1 he with he | he
    · exact hl e he
    · exact hl₁ e he
  · rw [hpast₁, hpast, List.append_assoc]

theorem of_aside (h : m.Aside m') : m.Unseen m' := by
  obtain ⟨work, hwork, hpast⟩ := h.past
  exact ⟨congrArg Solver.observers h.solver, h.recordings, h.level, work, fun e he =>
    ⟨Entry.sight?_of_isWork (hwork e he), Entry.isOverwriting_of_isWork (hwork e he)⟩, hpast⟩

theorem sights {R : List (Entry S) → Entry S → Sight S → Prop} (h : m.Unseen m')
    (hsights : EverySight R m.past) : EverySight R m'.past := by
  obtain ⟨l, hl, hpast⟩ := h.past
  rw [hpast]
  exact hsights.append fun e he => (hl e he).1

/-- What happened before is still part of the history. -/
theorem mem (h : m.Unseen m') {e : Entry S} (he : e ∈ m.past) : e ∈ m'.past := by
  obtain ⟨l, -, hpast⟩ := h.past
  rw [hpast]
  exact List.mem_append_left l he

end Machine.Unseen

namespace Action

/-- An action that works only beside the solver (`Machine.Aside`), and that ends. -/
def Beside (x : Action W I S α) : Prop :=
  ∀ m, m.Aside (x.runOn m).2 ∧ (x.runOn m).1 ≠ .error .unfinished

theorem Beside.pure (a : α) : Beside (pure a : Action W I S α) :=
  fun m => ⟨.refl m, by simp [run_pure]⟩

theorem Beside.fail (cause : Failure) : Beside (Action.fail cause : Action W I S α) :=
  fun m => ⟨.refl m, by simp [run_fail]⟩

theorem Beside.get : Beside (get : Action W I S (Machine W I S)) :=
  fun m => ⟨.refl m, by simp [run_get]⟩

theorem Beside.note {e : Entry S} (he : e.isWork) : Beside (note e : Action W I S Unit) :=
  fun m => ⟨.note m he, by simp [run_note]⟩

theorem Beside.log (level : Int) (source : LogSource) (message : String)
    (arguments : List (Option String)) :
    Beside (log level source message arguments : Action W I S Unit) :=
  fun m => ⟨.log m level source message arguments, by simp [run_log]⟩

theorem Beside.hook (h : Hook W S α) : Beside (hook h : Action W I S α) := by
  refine fun m => ⟨.hook h m, ?_⟩
  rw [run_hook]
  rcases (h.runAt ⟨m.world, m.generators, #[]⟩).1 with cause | a <;> simp

theorem Beside.bind {β : Type} {x : Action W I S α} {f : α → Action W I S β} (hx : Beside x)
    (hf : ∀ a, Beside (f a)) : Beside (x >>= f) := by
  intro m
  obtain ⟨haside, hend⟩ := hx m
  rw [run_bind]
  rcases hxm : x.runOn m with ⟨h | a, m'⟩ <;> simp only [hxm] at haside hend ⊢
  · exact ⟨haside, by simpa using hend⟩
  · exact ⟨haside.trans (hf a m').1, (hf a m').2⟩

/-- The two ways in which an action beside the solver ends. -/
theorem Beside.cases {x : Action W I S α} (hx : Beside x) (m : Machine W I S) :
    (∃ cause m', x.runOn m = (.error (.failed cause), m') ∧ m.Aside m') ∨
      ∃ a m', x.runOn m = (.ok a, m') ∧ m.Aside m' := by
  obtain ⟨haside, hend⟩ := hx m
  rcases hxm : x.runOn m with ⟨(cause | _) | a, m'⟩ <;> simp only [hxm] at haside hend
  · exact .inl ⟨cause, m', rfl, haside⟩
  · exact absurd rfl hend
  · exact .inr ⟨a, m', rfl, haside⟩

end Action

end HillClimb
