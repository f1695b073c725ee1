import HillClimb.Proofs.Decisions
import HillClimb.Proofs.Fidelity
import HillClimb.Proofs.InvariantPair
import HillClimb.Proofs.Turns

set_option autoImplicit false

/-! # The journal and the recording

The records for debugging are written by the search itself, right after each commit; what an
observer records is recorded later, when it is told of the commit. Both tell the same story: since
the last record of an initial solution there is one record for each decision of the present stretch,
which shows the cost that is recorded for it, and says whether the neighbour was accepted.

* `LogRecord.TellsStart`, `LogRecord.TellsStep` and `LogRecord.Shows` say what a record tells, by
  the texts that are written.
* `Stretch.Reported` are the records of a stretch, and `Recounts` relates the records to a
  recording.
* `Journaled` is the invariant, and `journal_agrees_with_recording` is the result. -/

namespace HillClimb

variable {W S α : Type}

/-! ## What a record shows -/

namespace LogRecord

theorem fill_cons {c : Char} (hc : c ≠ '%') (rest : List Char) (texts : List String) :
    fill (c :: rest) texts = (fill rest texts).map (c :: ·) := by
  rw [fill] <;> intros <;> contradiction

/-- What stands before the first place is shown as it is. -/
theorem fill_append {before : List Char} (h : '%' ∉ before) (rest : List Char)
    (texts : List String) :
    fill (before ++ rest) texts = (fill rest texts).map (before ++ ·) := by
  induction before with
  | nil => simp
  | cons c before ih =>
    rw [List.mem_cons, not_or] at h
    rw [List.cons_append, fill_cons (Ne.symm h.1), ih h.2, Option.map_map]
    rfl

theorem fill_place (rest : List Char) (text : String) (texts : List String) :
    fill ('%' :: 's' :: rest) (text :: texts) = (fill rest texts).map (text.toList ++ ·) := by
  rw [fill]

variable {level : Int} {source : LogSource}

/-- A record whose message ends in its only place shows the argument there, or nothing if the
    argument cannot be written: this is its `text?`. -/
theorem text?_one (before : String) (hbefore : '%' ∉ before.toList) (argument : Option String) :
    text? ⟨level, source, before ++ "%s", [argument]⟩ = argument.map (before ++ ·) := by
  cases argument with
  | none => simp [text?]
  | some text => simp [text?, fill_append hbefore, fill_place, fill]

theorem text?_two (before between : String) (hbefore : '%' ∉ before.toList)
    (hbetween : '%' ∉ between.toList) (argument : Option String) (last : String) :
    text? ⟨level, source, before ++ "%s" ++ between ++ "%s", [argument, some last]⟩
      = argument.map fun text => before ++ text ++ between ++ last := by
  cases argument with
  | none => simp [text?]
  | some text =>
    simp [text?, fill_append hbefore, fill_append hbetween, fill_place, fill, String.append_assoc]

/-! ## Records for debugging -/

/-- The record is that of an initial solution. -/
def TellsStart (r : LogRecord) : Prop :=
  r.message = "Solução inicial com custo %s criada: %s"

/-- The record is that of a step: of an improvement, or else of none. -/
def TellsStep (r : LogRecord) (accepted : Bool) : Prop :=
  r.message = if accepted then "Vizinho melhor encontrado. Novo custo: %s"
    else "Vizinho não é melhor que a solução corrente. Custo permanece %s"

/-- The record shows the cost: what is shown of it is one of three texts that have the text of the
    cost in them. If the cost has no text (`Value.toText?`), nothing is shown. -/
def Shows (r : LogRecord) (cost : Value) : Prop :=
  (∃ solution, r.text? = cost.toText?.map fun text =>
      "Solução inicial com custo " ++ text ++ " criada: " ++ solution) ∨
    (r.text? = cost.toText?.map fun text => "Vizinho melhor encontrado. Novo custo: " ++ text) ∨
      r.text? = cost.toText?.map fun text =>
        "Vizinho não é melhor que a solução corrente. Custo permanece " ++ text

end LogRecord

/-- The records of `Level.debug` in the journal, the oldest first. -/
def Machine.debugRecords {I : Type} (m : Machine W I S) : List LogRecord :=
  m.journal.toList.filter fun r => r.level = Level.debug

/-! ## The records of a search -/

namespace LocalSearch

/-- The record that `LocalSearch.start` writes, given the text of the cost. -/
def startRecord (initial : S) [Candidate S] (cost : Option String) : LogRecord :=
  ⟨Level.debug, .search, startMessage, [cost, some (Candidate.text initial)]⟩

/-- The record that `LocalSearch.move` writes, given the text of the cost. -/
def stepRecord (accepted : Bool) (cost : Option String) : LogRecord :=
  ⟨Level.debug, .search, stepMessage accepted, [cost]⟩

theorem shows_startRecord [Candidate S] (initial : S) (cost : Value) :
    (startRecord initial cost.toText?).Shows cost :=
  .inl ⟨Candidate.text initial, LogRecord.text?_two "Solução inicial com custo " " criada: "
    (by decide) (by decide) _ _⟩

theorem shows_stepRecord (accepted : Bool) (cost : Value) :
    (stepRecord accepted cost.toText?).Shows cost := by
  cases accepted with
  | true =>
    exact .inr (.inl (LogRecord.text?_one "Vizinho melhor encontrado. Novo custo: " (by decide) _))
  | false =>
    exact .inr (.inr (LogRecord.text?_one
      "Vizinho não é melhor que a solução corrente. Custo permanece " (by decide) _))

/-- The record of a step is not that of an initial solution. -/
theorem not_tellsStart_stepRecord (accepted : Bool) (cost : Option String) :
    ¬ (stepRecord accepted cost).TellsStart := by
  cases accepted <;> simp [LogRecord.TellsStart, stepRecord, stepMessage]

/-- An improvement is not told as a rejection is. -/
theorem tellsStep_stepRecord_iff (accepted accepted' : Bool) (cost : Option String) :
    (stepRecord accepted cost).TellsStep accepted' ↔ accepted' = accepted := by
  cases accepted <;> cases accepted' <;> simp [LogRecord.TellsStep, stepRecord, stepMessage]

end LocalSearch

variable [Candidate S]

namespace Stretch

/-- The records tell of the stretch: the first one of its choice (`startRecord`), and the others of
    its decisions (`stepRecord`). Each shows what the search cost after it. -/
inductive Reported : Stretch S → List LogRecord → Prop
  | chosen {s : S} {v : Value} (hv : Candidate.costs s = .ok v) :
      Reported ⟨s, []⟩ [LocalSearch.startRecord s v.toText?]
  | decided {st : Stretch S} {records : List LogRecord} {neighbor : S} {accepted : Bool}
      {v : Value} (h : Reported st records)
      (hv : Candidate.costs (st.decide neighbor accepted).current = .ok v) :
      Reported (st.decide neighbor accepted)
        (records ++ [LocalSearch.stepRecord accepted v.toText?])

namespace Reported

variable {st : Stretch S} {records : List LogRecord}

theorem length (h : st.Reported records) : records.length = st.decisions.length + 1 := by
  induction h with
  | chosen hv => rfl
  | decided h hv ih => simp [ih]

theorem first (h : st.Reported records) : ∃ v, Candidate.costs st.initial = .ok v ∧
    records[0]? = some (LocalSearch.startRecord st.initial v.toText?) := by
  induction h with
  | chosen hv => exact ⟨_, hv, rfl⟩
  | decided h hv ih =>
    obtain ⟨v, hfirst, hrecord⟩ := ih
    refine ⟨v, hfirst, ?_⟩
    rw [List.getElem?_append_left (by rw [h.length]; omega)]
    exact hrecord

/-- The record of a decision shows the cost of where the search was after it. -/
theorem later (h : st.Reported records) {n : Nat} {neighbor : S} {accepted : Bool}
    (hn : st.decisions[n]? = some (neighbor, accepted)) :
    ∃ v, Candidate.costs (st.upTo (n + 1)).current = .ok v ∧
      records[n + 1]? = some (LocalSearch.stepRecord accepted v.toText?) := by
  induction h with
  | chosen hv => cases hn
  | @decided st records neighbor' accepted' v h hv ih =>
    have hlength := h.length
    rw [decide] at hn
    rcases Nat.lt_or_ge n st.decisions.length with hlt | hge
    · rw [List.getElem?_append_left hlt] at hn
      rw [upTo_decide hlt, List.getElem?_append_left (by omega)]
      exact ih hn
    · -- The decision is the last one.
      rw [List.getElem?_append_right hge, List.getElem?_singleton] at hn
      split at hn
      · obtain ⟨rfl, rfl⟩ := Prod.mk.inj (Option.some.inj hn)
        obtain rfl : n = st.decisions.length := by omega
        refine ⟨v, ?_, ?_⟩
        · rw [← length_decide st neighbor' accepted', upTo_length]
          exact hv
        · rw [← hlength, List.getElem?_concat_length]
      · cases hn

end Reported

end Stretch

/-- The recorded costs are those of where the search was after each decision. -/
theorem Trajectory.Tells.costs_upTo {t : Trajectory} {st : Stretch S} (h : t.Tells st) {n : Nat}
    (hn : n ≤ st.decisions.length) :
    ∃ v, Candidate.costs (st.upTo n).current = .ok v ∧ t.costs.toList[n]? = some v := by
  induction n with
  | zero => exact h.first
  | succ n ih =>
    obtain ⟨v, hv, hcost⟩ := ih (by omega)
    obtain ⟨⟨neighbor, accepted⟩, hdecision⟩ : ∃ d, st.decisions[n]? = some d :=
      ⟨_, List.getElem?_eq_getElem (by omega)⟩
    have hflag : t.accepted.toList[n]? = some accepted := by simp [h.accepted, hdecision]
    rw [h.next n accepted hflag, Stretch.upTo_succ hdecision, Stretch.current_decide]
    cases accepted with
    | false => exact ⟨v, hv, hcost⟩
    | true =>
      have hneighbor : (t.neighborCosts.toList.map Except.ok)[n]?
          = some (Candidate.costs neighbor) := by simp [h.neighbors, hdecision]
      rw [List.getElem?_map, Option.map_eq_some_iff] at hneighbor
      obtain ⟨v', hv', hcosts⟩ := hneighbor
      exact ⟨v', hcosts.symm, hv'⟩

/-! ## The story of a recording -/

/-- The records tell what is recorded: the first one of an initial solution, and the others of
    steps, with the costs and the flags that are recorded. -/
structure Recounts (t : Trajectory) (steps : Int) (records : List LogRecord) : Prop where
  count : (records.length : Int) = 1 + steps
  shown : ∀ (i : Nat) (r : LogRecord), records[i]? = some r →
    ∃ cost, t.costs.toList[i]? = some cost ∧ r.Shows cost
  first : ∃ r, records[0]? = some r ∧ r.TellsStart
  later : ∀ (i : Nat) (r : LogRecord), records[i + 1]? = some r → ¬ r.TellsStart ∧
    ∃ accepted, t.accepted.toList[i]? = some accepted ∧
      ∀ accepted', r.TellsStep accepted' ↔ accepted' = accepted

/-- Records and a recording of the same stretch go together, by `Reported` and `Tells`. -/
theorem Stretch.Reported.recounts {st : Stretch S} {records : List LogRecord}
    (h : st.Reported records) {t : Trajectory} (ht : t.Tells st) :
    Recounts t st.decisions.length records := by
  have hlength := h.length
  -- What the record of a decision says.
  have hlater : ∀ (i : Nat) (r : LogRecord), records[i + 1]? = some r → ∃ accepted v,
      t.accepted.toList[i]? = some accepted ∧ t.costs.toList[i + 1]? = some v ∧
        r = LocalSearch.stepRecord accepted v.toText? := by
    intro i r hr
    have hi : i + 1 < records.length := (List.getElem?_eq_some_iff.1 hr).1
    obtain ⟨⟨neighbor, accepted⟩, hdecision⟩ : ∃ d, st.decisions[i]? = some d :=
      ⟨_, List.getElem?_eq_getElem (by omega)⟩
    obtain ⟨v, hv, hrecord⟩ := h.later hdecision
    obtain ⟨v', hv', hcost⟩ := ht.costs_upTo (n := i + 1) (by omega)
    obtain rfl : v = v' := Except.ok.inj (hv.symm.trans hv')
    exact ⟨accepted, v, by simp [ht.accepted, hdecision], hcost,
      Option.some.inj (hr.symm.trans hrecord)⟩
  obtain ⟨v, hv, hrecord⟩ := h.first
  refine ⟨by omega, fun i r hr => ?_, ⟨_, hrecord, rfl⟩, fun i r hr => ?_⟩
  · cases i with
    | zero =>
      obtain ⟨v', hv', hcost⟩ := ht.first
      obtain rfl : v = v' := Except.ok.inj (hv.symm.trans hv')
      obtain rfl := Option.some.inj (hr.symm.trans hrecord)
      exact ⟨v, hcost, LocalSearch.shows_startRecord st.initial v⟩
    | succ i =>
      obtain ⟨accepted, v, -, hcost, rfl⟩ := hlater i r hr
      exact ⟨v, hcost, LocalSearch.shows_stepRecord accepted v⟩
  · obtain ⟨accepted, v, hflag, -, rfl⟩ := hlater i r hr
    exact ⟨LocalSearch.not_tellsStart_stepRecord accepted _, accepted, hflag, fun accepted' =>
      LocalSearch.tellsStep_stepRecord_iff accepted accepted' _⟩

/-! ## What the journal tells at a moment -/

/-- If no cost failed to be known, the journal ends with records of the present stretch. -/
def Machine.Reports (m : Machine W (LocalSearch W S) S) : Prop :=
  CostsKnown m.past → ∀ st, stretchOf m.past = some st →
    ∃ earlier records, m.debugRecords = earlier ++ records ∧ st.Reported records

/-- The search writes records for debugging, and the journal has told of the present stretch. -/
structure Journaled (level : Int) (m : Machine W (LocalSearch W S) S) : Prop
    extends Standing level m where
  loud : level ≤ Level.debug
  reports : m.Reports

omit [Candidate S] in
theorem Machine.debugRecords_reported (m : Machine W (LocalSearch W S) S) (s : S)
    (message : String) (arguments : List (Option String)) :
    (m.reported s message arguments).debugRecords
      = m.debugRecords ++ [⟨Level.debug, .search, message, arguments⟩] := by
  simp [debugRecords, reported]

omit [Candidate S] in
/-- Records of the lifecycle are not for debugging. -/
theorem Machine.debugRecords_logged (m : Machine W (LocalSearch W S) S) (message : String) :
    (m.logged message).debugRecords = m.debugRecords := by
  unfold logged
  split
  · simp [debugRecords, Level.info, Level.debug]
  · rfl

namespace Journaled

variable {level : Int} {m m' : Machine W (LocalSearch W S) S}

/-- Nothing is committed, and no record for debugging is written. -/
theorem still (h : Journaled level m) (hstanding : Standing level m')
    (hjournal : m'.debugRecords = m.debugRecords) {l : List (Entry S)}
    (hl : ∀ e ∈ l, e.isCommit = false) (hpast : m'.past = m.past ++ l) : Journaled level m' := by
  refine ⟨hstanding, h.loud, fun hknown st hst => ?_⟩
  rw [hpast] at hknown hst
  rw [stretchOf_append m.past hl] at hst
  rw [hjournal]
  exact h.reports hknown.of_append st hst

theorem worked (h : Journaled level m) (world : W) (generators : Generators)
    {work : List (Entry S)} (hwork : ∀ e ∈ work, e.isWork) :
    Journaled level (m.worked world generators work) :=
  h.still (h.toStanding.aside (m.aside_worked world generators hwork)) rfl
    (fun e he => Entry.isCommit_of_isWork (hwork e he)) (m.past_worked world generators work)

theorem glimpsed (h : Journaled level m) {entry : Sight S → Entry S}
    (hentry : ∀ seen, (entry seen).sight? = some seen) : Journaled level (m.glimpsed entry) := by
  refine h.still (h.toStanding.glimpsed hentry) rfl (fun e he => ?_) (m.past_glimpsed entry)
  rw [List.mem_singleton.1 he]
  exact (Entry.isCommit_of_sight? (hentry _)).1

theorem recorded (h : Journaled level m) (o : ObserverId) (news : News S) :
    Journaled level ((Action.record LocalSearch.method o news).runOn m).2 := by
  obtain ⟨r, ha⟩ := Action.aside_record LocalSearch.method o news m
  have hstanding := (Standing.lasting level).recorded m r h.toStanding
  exact h.still (hstanding.aside ha) rfl
    (fun e he => Entry.isCommit_of_isWork (Entry.isWork_of_mem_map_probed he))
    (Action.past_record m o news)

/-! ## Transitions -/

/-- A search asks before it commits, and nothing is told meanwhile. -/
theorem asking (level : Int) : LocalSearch.Asking fun m n : Machine W (LocalSearch W S) S =>
    n = m ∧ Journaled level m := by
  refine ⟨?_, ?_⟩
  · rintro m n ⟨rfl, h⟩
    exact ⟨rfl, rfl, rfl, rfl, rfl⟩
  · rintro m n world generators work hwork ⟨rfl, h⟩
    exact ⟨rfl, h.worked world generators hwork⟩

/-- The record of a start begins to tell of the new stretch. -/
theorem leads_opening (level : Int) (initial : S) :
    Action.Leads (Journaled level)
      (LocalSearch.opening initial : Action W (LocalSearch W S) S (News S))
      (fun _ => Machine.Reports) fun _ => Machine.Reports := by
  intro m h
  have hloud : m.level ≤ Level.debug := h.logs ▸ h.loud
  cases hcost : Candidate.costs initial with
  | error cause =>
    rw [LocalSearch.run_opening_failed hloud hcost]
    intro hknown
    exact absurd hcost (hknown.not_failed (by simp [Machine.past_worked]) cause)
  | ok v =>
    rw [LocalSearch.run_opening_known hloud hcost]
    intro _ st hst
    have hchosen := Machine.stretch_chosen ((m.chosen initial).aside_reported initial
      LocalSearch.startMessage [v.toText?, some (Candidate.text initial)])
    obtain rfl := Option.some.inj (hchosen.symm.trans hst)
    exact ⟨_, _, Machine.debugRecords_reported _ _ _ _, .chosen hcost⟩

/-- The record of a step goes on with what was told of the stretch. -/
theorem leads_closing (level : Int) (neighbor : S) (accepted : Bool) :
    Action.Leads (fun m => Journaled level m ∧ m.solver.phase = .ready)
      (LocalSearch.closing neighbor accepted : Action W (LocalSearch W S) S (News S))
      (fun _ => Machine.Reports) fun _ => Machine.Reports := by
  rintro m ⟨h, hready⟩
  have hloud : m.level ≤ Level.debug := h.logs ▸ h.loud
  obtain ⟨st, hst⟩ := h.shown.located.stretch hready
  have hcurrent : m.solver.inner.current = some st.current :=
    h.shown.located.current_of_stretch hst
  have hs : (if accepted then some neighbor else m.solver.inner.current)
      = some (st.decide neighbor accepted).current := by
    rw [hcurrent, Stretch.current_decide]
    cases accepted <;> rfl
  cases hcost : Candidate.costs (st.decide neighbor accepted).current with
  | error cause =>
    rw [LocalSearch.run_closing_failed hloud hs hcost]
    intro hknown
    exact absurd hcost (hknown.not_failed
      (by simp [Machine.past_worked, -Stretch.current_decide]) cause)
  | ok v =>
    rw [LocalSearch.run_closing_known hloud hs hcost]
    intro hknown st' hst'
    have hshown := (m.judged neighbor accepted).aside_reported
      (st.decide neighbor accepted).current (LocalSearch.stepMessage accepted) [v.toText?]
    obtain rfl := Option.some.inj
      ((Machine.stretch_judged (.refl m) hshown hst).symm.trans hst')
    have hbefore : CostsKnown m.past := by
      refine CostsKnown.of_append (l := [.decided neighbor accepted,
        .probed (.costs (st.decide neighbor accepted).current)]) ?_
      simpa [Machine.past, Machine.counted, Machine.judged, Machine.reported] using hknown
    obtain ⟨earlier, records, hjournal, hreported⟩ := h.reports hbefore st hst
    refine ⟨earlier, records ++ [_], ?_, hreported.decided hcost⟩
    rw [Machine.debugRecords_reported, ← List.append_assoc, ← hjournal]
    rfl

theorem leads_enter (level : Int) :
    Action.Leads (Journaled level)
      (Solver.enter LocalSearch.method : Action W (LocalSearch W S) S (News S))
      (fun _ => Machine.Reports) fun _ => Machine.Reports := by
  rw [LocalSearch.enter_eq]
  exact (((asking level).proposing.imp (fun _ _ h => h) (fun _ _ _ h => h)
    fun _ _ h => ⟨h.1, h.2.reports⟩).leads).bind (leads_opening level)

theorem leads_stride (level : Int) :
    Action.Leads (Journaled level)
      (Solver.stride LocalSearch.method : Action W (LocalSearch W S) S (News S))
      (fun _ => Machine.Reports) fun _ => Machine.Reports := by
  intro m h
  cases hphase : m.solver.phase with
  | uninitialized =>
    rw [LocalSearch.run_stride_unready hphase]
    have hwork : ∀ e ∈ [Entry.stepCalled (S := S)], e.isWork := by simp [Entry.isWork]
    exact (h.worked m.world m.generators hwork).reports
  | ready =>
    -- The search stays ready while hooks are asked.
    have hready : LocalSearch.Asking fun m n : Machine W (LocalSearch W S) S =>
        n = m ∧ Journaled level m ∧ m.solver.phase = .ready := by
      refine ⟨fun m n h => (asking level).peers m n ⟨h.1, h.2.1⟩, ?_⟩
      rintro m n world generators work hwork ⟨rfl, h, hready⟩
      exact ⟨rfl, h.worked world generators hwork, hready⟩
    rw [LocalSearch.stride_eq]
    exact ((((hready.deliberating fun m n h => by rw [h.1]).imp (fun _ _ h => h)
      (fun _ _ _ h => h) fun _ _ h => ⟨h.1, h.2.1.reports⟩).leads).bind
        fun decision => leads_closing level decision.1 decision.2) m ⟨h, hphase⟩

/-- The journal tells of the present stretch, whatever befalls a search, in the sense of
    `Solver.InvariantPair`. -/
theorem invariantPair (cast : Cast W S) (level : Int) :
    Solver.InvariantPair cast (Journaled level) (Journaled level) fun _ _ => True where
  rest _ h := h
  looked _ h := h.glimpsed fun _ => rfl
  read _ _ h := h.glimpsed fun _ => rfl
  resumed _ h := h.glimpsed fun _ => rfl
  stopAsked _ h := h.glimpsed fun _ => rfl
  hook k m h := by
    rw [Action.run_hook_worked]
    exact h.worked _ _ fun _ he => HookState.isWork_of_mem_questions he
  enter := (Action.Leads.of_all fun m h => ⟨h.toStanding.entered (LocalSearch.entered_enter m),
    h.loud, (leads_enter level).leaves h⟩).imp (fun _ h => h) fun _ _ h => ⟨h, trivial⟩
  stride := (Action.Leads.of_all fun m h => ⟨h.toStanding.strode (LocalSearch.strode_stride m),
    h.loud, (leads_stride level).leaves h⟩).imp (fun _ h => h) fun _ _ h => ⟨h, trivial⟩
  pending _ _ _ _ _ := trivial
  silent _ _ _ _ _ h := h.glimpsed fun _ => rfl
  recorder _ news _ o _ _ h := (h.glimpsed fun _ => rfl).recorded o news
  custom _ _ _ _ _ _ h := h.glimpsed fun _ => rfl
  logged m text h :=
    h.still (h.toStanding.aside (.log m _ _ text [])) (m.debugRecords_logged text)
      (l := []) (by simp) (by obtain ⟨journal, hm⟩ := m.logged_eq text; simp [hm, Machine.past])
  observed m o h := by
    refine h.still ((Standing.lasting level).observed m o h.toStanding) rfl (l := []) (by simp) ?_
    exact (List.append_nil _).symm
  overwritten m n h :=
    h.still (h.toStanding.overwritten n) rfl (by simp [Entry.isCommit]) (m.past_overwritten n)

end Journaled

/-! ## Before the first start -/

/-- As long as the search was never started, nothing was recorded, and everybody saw so. -/
structure Untouched (level : Int) (old : Recordings) (m : Machine W (LocalSearch W S) S) : Prop
    extends Standing level m where
  untouched : stretchOf m.past = none →
    m.recordings = old ∧ EverySight (fun _ _ seen => seen.recordings = old) m.past

omit [Candidate S] in
/-- What was started stays started. -/
theorem isSome_stretchOf_append {past : List (Entry S)} (h : (stretchOf past).isSome)
    (l : List (Entry S)) : (stretchOf (past ++ l)).isSome := by
  obtain ⟨s, hs⟩ := (isSome_stretchOf past).1 h
  exact (isSome_stretchOf _).2 ⟨s, List.mem_append_left l hs⟩

omit [Candidate S] in
theorem stretchOf_eq_none_of_append {past l : List (Entry S)}
    (h : stretchOf (past ++ l) = none) : stretchOf past = none := by
  by_contra hsome
  have hstays := isSome_stretchOf_append (Option.isSome_iff_ne_none.2 hsome) l
  rw [h] at hstays
  cases hstays

namespace Untouched

variable {level : Int} {old : Recordings} {m m' : Machine W (LocalSearch W S) S}

theorem unseen (h : Untouched level old m) (hstanding : Standing level m')
    (hunseen : m.Unseen m') : Untouched level old m' := by
  refine ⟨hstanding, fun hnone => ?_⟩
  obtain ⟨l, -, hpast⟩ := hunseen.past
  rw [hpast] at hnone
  obtain ⟨hsame, hsights⟩ := h.untouched (stretchOf_eq_none_of_append hnone)
  exact ⟨hunseen.recordings.trans hsame, hunseen.sights hsights⟩

theorem glimpsed (h : Untouched level old m) {entry : Sight S → Entry S}
    (hentry : ∀ seen, (entry seen).sight? = some seen) :
    Untouched level old (m.glimpsed entry) := by
  refine ⟨h.toStanding.glimpsed hentry, fun hnone => ?_⟩
  rw [m.stretch_glimpsed hentry] at hnone
  obtain ⟨hsame, hsights⟩ := h.untouched hnone
  exact ⟨hsame, hsights.glimpsed hentry hsame⟩

theorem leads_enter (level : Int) (old : Recordings) :
    Action.Leads (Untouched level old)
      (Solver.enter LocalSearch.method : Action W (LocalSearch W S) S (News S))
      (fun _ m => Untouched level old m ∧ (stretchOf m.past).isSome)
      fun _ => Untouched level old := by
  refine .of_ok (fun m h => ?_) fun m news m' h hrun => ?_ <;>
    have hentered := LocalSearch.entered_enter m
  · exact h.unseen (h.toStanding.entered hentered) hentered.unseen
  · rw [hrun] at hentered
    obtain ⟨s, -, hs⟩ := hentered.started
    exact (isSome_stretchOf m'.past).2 ⟨s, hs⟩

/-- A search that makes steps was started. -/
theorem leads_stride (level : Int) (old : Recordings) :
    Action.Leads (Untouched level old)
      (Solver.stride LocalSearch.method : Action W (LocalSearch W S) S (News S))
      (fun _ m => Untouched level old m ∧ (stretchOf m.past).isSome)
      fun _ => Untouched level old := by
  refine .of_ok (fun m h => ?_) fun m news m' h hrun => ?_ <;>
    have hstrode := LocalSearch.strode_stride m
  · exact h.unseen (h.toStanding.strode hstrode) hstrode.unseen
  · rw [hrun] at hstrode
    exact (isSome_stretchOf m'.past).2 (hstrode.started h.toStanding).2

theorem invariantPair (cast : Cast W S) (level : Int) (old : Recordings) :
    Solver.InvariantPair cast (Untouched level old) (Untouched level old)
      fun _ m => (stretchOf m.past).isSome where
  rest _ h := h
  looked _ h := h.glimpsed fun _ => rfl
  read _ _ h := h.glimpsed fun _ => rfl
  resumed _ h := h.glimpsed fun _ => rfl
  stopAsked _ h := h.glimpsed fun _ => rfl
  hook k m h := h.unseen (h.toStanding.aside (.hook k m)) (.of_aside (.hook k m))
  enter := leads_enter level old
  stride := leads_stride level old
  pending _ m m' h hgrows := by
    obtain ⟨l, hl⟩ := hgrows.past
    rw [← hl]
    exact isSome_stretchOf_append h l
  silent _ _ _ _ _ h := h.glimpsed fun _ => rfl
  recorder m news place o _ hdue h := by
    -- Observers are told of what was committed, so the search was started.
    obtain ⟨r, ha⟩ := Action.aside_record LocalSearch.method o news
      (m.glimpsed (.notified place o news))
    have hstanding : Standing level (m.glimpsed (.notified place o news)) :=
      h.toStanding.glimpsed fun _ => rfl
    refine ⟨((Standing.lasting level).recorded _ r hstanding).aside ha, fun hnone => ?_⟩
    rw [Action.past_record, m.past_glimpsed, List.append_assoc] at hnone
    rw [stretchOf_eq_none_of_append hnone] at hdue
    cases hdue
  custom _ _ _ _ _ _ h := h.glimpsed fun _ => rfl
  logged m text h :=
    h.unseen (h.toStanding.aside (.log m _ _ text [])) (.of_aside (.log m _ _ text []))
  observed m o h := ⟨(Standing.lasting level).observed m o h.toStanding, h.untouched⟩
  overwritten m n h := by
    refine ⟨h.toStanding.overwritten n, fun hnone => ?_⟩
    rw [m.stretch_overwritten] at hnone
    exact ⟨(h.untouched hnone).1, (h.untouched hnone).2.overwritten n⟩

/-- An observer that is the first of the list by then describes what is to come: its recording is
    `Settled`. -/
theorem settled (h : Untouched level old m) (hnone : stretchOf m.past = none) {o : ObserverId}
    (hfirst : m.solver.observers[0]? = some o) : Settled o (old.of o) level m := by
  obtain ⟨hsame, hsights⟩ := h.untouched hnone
  refine ⟨⟨h.toStanding, hfirst, fun _ before e after hsplit seen hseen _ => ?_⟩, fun _ => ?_⟩
  · rw [hsplit] at hnone
    rw [stretchOf_eq_none_of_append hnone, hsights before e after hsplit seen hseen]
    rfl
  · rw [hnone, hsame]
    rfl

end Untouched

theorem Machine.Fresh.untouched {m : Machine W (LocalSearch W S) S} (h : m.Fresh) :
    Untouched m.level m.recordings m := by
  refine ⟨h.standing, fun _ => ⟨rfl, ?_⟩⟩
  rw [h.past]
  exact .nil

theorem Machine.Fresh.journaled {m : Machine W (LocalSearch W S) S} (h : m.Fresh)
    (hloud : m.level ≤ Level.debug) : Journaled m.level m := by
  refine ⟨h.standing, hloud, fun _ st hst => ?_⟩
  rw [h.past] at hst
  cases hst

/-! ## Journals and recordings -/

/-- Let an observer that records be attached to a search before its first start that commits, as the
    first of the list, and be listed only once. Whenever a program has ended after a start has
    committed, and no cost failed to be known, the `DEBUG` records since the last record of an
    initial solution, and including it, tell what the observer has recorded (`Recounts`). -/
theorem journal_agrees_with_recording (cast : Cast W S) {β : Type} (before : Program W S β)
    (fuel : Nat) (caller : Program W S α) (fuel' : Nat)
    {m₀ m m' : Machine W (LocalSearch W S) S} (hfresh : m₀.Fresh)
    (hloud : m₀.level ≤ Level.debug) {o : ObserverId} (hcast : cast.observer o = .recorder)
    (hbefore : (before.outcome cast m₀ fuel).2 = m) (hnone : ∀ s, Entry.started s ∉ m.past)
    (hfirst : m.solver.observers[0]? = some o) {result : Except Halt α}
    (hrun : caller.outcome cast m fuel' = (result, m')) (hend : result ≠ .error .unfinished)
    (honce : m'.solver.observers.count o = 1) (hknown : CostsKnown m'.past)
    (hstarted : ∃ s, Entry.started s ∈ m'.past) :
    ∃ earlier records, m'.debugRecords = earlier ++ records ∧
      Recounts (m'.recordings.of o) m'.solver.steps records := by
  -- Up to here nothing was recorded and nothing was committed.
  have huntouched : Untouched m₀.level m₀.recordings m := by
    rw [← hbefore]
    exact (Untouched.invariantPair cast _ _).holds before fuel hfresh.untouched
  have hnone' : stretchOf m.past = none := by
    rw [← Option.not_isSome_iff_eq_none, isSome_stretchOf]
    exact fun ⟨s, hs⟩ => hnone s hs
  have hjournaled : Journaled m₀.level m' := by
    have hm := (Journaled.invariantPair cast m₀.level).holds before fuel (hfresh.journaled hloud)
    rw [hbefore] at hm
    have hm' := (Journaled.invariantPair cast m₀.level).holds caller fuel' hm
    rwa [hrun] at hm'
  have hsettled : Settled o (m₀.recordings.of o) m₀.level m' := by
    have hm' := ((Settled.upheld hcast (m₀.recordings.of o) m₀.level).play fuel' caller).holds
      (huntouched.settled hnone' hfirst)
    rw [← Program.outcome, hrun] at hm'
    exact hm' hend
  obtain ⟨st, hst⟩ := Option.isSome_iff_exists.1 ((isSome_stretchOf m'.past).2 hstarted)
  obtain ⟨earlier, records, hjournal, hreported⟩ := hjournaled.reports hknown st hst
  have htells := hsettled.settled ⟨honce, hknown⟩
  have hsteps := (hjournaled.shown.counted (.inr hknown)).steps
  rw [hst] at htells
  rw [decisionsOf, hst] at hsteps
  refine ⟨earlier, records, hjournal, ?_⟩
  rw [show m'.solver.steps = (st.decisions.length : Nat) from hsteps]
  exact hreported.recounts htells

/-- A start in which another observer steps, and another step: one record of the initial solution,
    one of an improvement, and one of a rejection. -/
theorem journal_agrees_with_recording_eager :
    let before : Program (List Bare) Bare Unit := do
      Program.calling (.observe 0)
      Program.calling (.observe 1)
    let caller : Program (List Bare) Bare Unit := do
      Program.calling .start
      Program.calling .step
    let m := (before.outcome Cast.eager
      (Machine.listed ([5, 3, 4].map Bare.costing) #[] Level.debug) 9).2
    let m' := (caller.outcome Cast.eager m 9).2
    (m'.recordings.of 0).accepted.toList = [true, false] ∧ m'.debugRecords.length = 3 ∧
      ∃ earlier records, m'.debugRecords = earlier ++ records ∧
        Recounts (m'.recordings.of 0) m'.solver.steps records := by
  intro before caller m m'
  have hnone : ∀ s, Entry.started s ∉ m.past := by
    rw [← not_exists, ← isSome_stretchOf]
    decide +kernel
  exact ⟨by decide +kernel, by decide +kernel,
    journal_agrees_with_recording Cast.eager before 9 caller 9 (Machine.fresh_listed _ _ _)
      (by decide) (o := 0) rfl rfl hnone (by decide +kernel) (Prod.eta _).symm
      (by decide +kernel) (by decide +kernel) (Bare.costsKnown (by decide +kernel))
      ((isSome_stretchOf _).1 (by decide +kernel))⟩

end HillClimb
