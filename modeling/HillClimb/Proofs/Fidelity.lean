import HillClimb.Proofs.Commits
import HillClimb.Proofs.Telling

set_option autoImplicit false

/-! # What a first observer records

An observer that records the trajectory of a search is told of each transition after its commit. If
it is the first of the list, nobody can call the solver in between, so its recording tells of the
present stretch whenever somebody else looks (`Trajectory.Tells`). Calls that other observers nest
come after the recording, and a call that fails does so before its commit, or after the recording.

The invariant is `Settled`: it holds between calls (`Settled.upheld`), and a commit leaves `Due`
until the observer is told. The result is `recording_follows_commits`. -/

namespace HillClimb

variable {W S : Type} [Candidate S]

/-! ## What is recorded at a moment -/

/-- Whether the observer was told news. -/
def Entry.isNoticeFor (o : ObserverId) : Entry S → Bool
  | .notified _ o' _ _ => o' == o
  | _ => false

/-- The recording of an observer: as it was before the search if that was never started, or else one
    that `Tells` of its present stretch. -/
def Trajectory.Describes (t old : Trajectory) : Option (Stretch S) → Prop
  | none => t = old
  | some st => t.Tells st

/-- The observer is listed only once, and no cost failed to be known. -/
structure Clean (o : ObserverId) (m : Machine W (LocalSearch W S) S) : Prop where
  once : m.solver.observers.count o = 1
  known : CostsKnown m.past

/-- What happened without anybody looking has left a `Clean` machine clean. -/
theorem Clean.of_unseen {o : ObserverId} {m m' : Machine W (LocalSearch W S) S}
    (h : Clean o m') (hunseen : m.Unseen m') : Clean o m :=
  ⟨by rw [← hunseen.observers]; exact h.once, fun s hs => h.known s (hunseen.mem hs)⟩

omit [Candidate S] in
/-- What is listed behind an observer that is listed once is another one. -/
theorem ne_of_once {observers : Array ObserverId} {o o' : ObserverId} {place : Nat}
    (hhead : observers[0]? = some o) (honce : observers.count o = 1)
    (hlater : observers[place + 1]? = some o') : o' ≠ o := by
  rintro rfl
  rcases observers with ⟨_ | ⟨first, rest⟩⟩
  · cases hhead
  · obtain rfl : first = o' := by simpa using hhead
    have hmem : first ∈ rest := List.mem_of_getElem? (by simpa using hlater)
    have hcount := List.count_pos_iff.2 hmem
    simp at honce
    omega

/-! ## Invariants -/

/-- The observer is the first of the list, and whenever somebody else looked its recording described
    the history. -/
structure Tracked (o : ObserverId) (old : Trajectory) (level : Int)
    (m : Machine W (LocalSearch W S) S) : Prop extends Standing level m where
  head : m.solver.observers[0]? = some o
  told : Clean o m → EverySight (fun before e seen => e.isNoticeFor o = false →
    (seen.recordings.of o).Describes old (stretchOf before)) m.past

/-- The recording describes the history now, too, unless the machine is not `Clean`. -/
structure Settled (o : ObserverId) (old : Trajectory) (level : Int)
    (m : Machine W (LocalSearch W S) S) : Prop extends Tracked o old level m where
  settled : Clean o m → (m.recordings.of o).Describes old (stretchOf m.past)

/-- The recording described the history before the commit that the news are of. -/
def Due (o : ObserverId) (old : Trajectory) (level : Int) (news : News S)
    (m : Machine W (LocalSearch W S) S) : Prop :=
  Tracked o old level m ∧
    match news with
    | .started solution => ∃ s, solution = some s ∧ stretchOf m.past = some ⟨s, []⟩
    | .stepped neighbor accepted => ∃ st, stretchOf m.past = some (st.decide neighbor accepted) ∧
      (Clean o m → (m.recordings.of o).Tells st)

section

variable {o : ObserverId} {old : Trajectory} {level : Int}
  {m m' m₁ m₂ : Machine W (LocalSearch W S) S}

theorem Tracked.unseen (h : Tracked o old level m) (hstanding : Standing level m')
    (hunseen : m.Unseen m') : Tracked o old level m' :=
  ⟨hstanding, by rw [hunseen.observers]; exact h.head, fun hclean =>
    hunseen.sights (h.told (hclean.of_unseen hunseen))⟩

theorem Clean.of_glimpsed {entry : Sight S → Entry S} (h : Clean o (m.glimpsed entry)) :
    Clean o m := by
  refine ⟨h.once, ?_⟩
  have hknown := h.known
  rw [Machine.past_glimpsed] at hknown
  exact hknown.of_append

/-- A look of somebody else must find that the recording describes the history. -/
theorem Tracked.glimpsed (h : Tracked o old level m) {entry : Sight S → Entry S}
    (hentry : ∀ seen, (entry seen).sight? = some seen)
    (hdescribes : (entry (LocalSearch.method.sight m)).isNoticeFor o = false → Clean o m →
      (m.recordings.of o).Describes old (stretchOf m.past)) :
    Tracked o old level (m.glimpsed entry) := by
  refine ⟨h.toStanding.glimpsed hentry, h.head, fun hclean => ?_⟩
  have hclean' := hclean.of_glimpsed
  exact (h.told hclean').glimpsed hentry fun hother => hdescribes hother hclean'

theorem Tracked.recorded (h : Tracked o old level m) (r : Recordings) :
    Tracked o old level { m with recordings := r } :=
  ⟨(Standing.lasting level).recorded m r h.toStanding, h.head, fun hclean =>
    h.told ⟨hclean.once, hclean.known⟩⟩

namespace Settled

theorem aside (h : Settled o old level m) (ha : m.Aside m') : Settled o old level m' := by
  have hunseen := Machine.Unseen.of_aside ha
  refine ⟨h.toTracked.unseen (h.toStanding.aside ha) hunseen, fun hclean => ?_⟩
  rw [ha.recordings, ha.stretch]
  exact h.settled (hclean.of_unseen hunseen)

theorem glimpsed (h : Settled o old level m) {entry : Sight S → Entry S}
    (hentry : ∀ seen, (entry seen).sight? = some seen) :
    Settled o old level (m.glimpsed entry) := by
  refine ⟨h.toTracked.glimpsed hentry fun _ hclean => h.settled hclean, fun hclean => ?_⟩
  rw [Machine.stretch_glimpsed m hentry]
  exact h.settled hclean.of_glimpsed

theorem observed (h : Settled o old level m) (o' : ObserverId) :
    Settled o old level (m.observed o') := by
  -- The observer is in the list already, so another one was added if it still is there once.
  have hclean : Clean o (m.observed o') → Clean o m := by
    refine fun hclean => ⟨?_, hclean.known⟩
    have hmem : 0 < m.solver.observers.count o :=
      Array.count_pos_iff.2 (Array.mem_of_getElem? h.head)
    have honce : (m.solver.observers.push o').count o = 1 := hclean.once
    rw [Array.count_push] at honce
    omega
  refine ⟨⟨(Standing.lasting level).observed m o' h.toStanding, ?_, fun hc => h.told (hclean hc)⟩,
    fun hc => h.settled (hclean hc)⟩
  obtain ⟨hsize, -⟩ := Array.getElem?_eq_some_iff.1 h.head
  show (m.solver.observers.push o')[0]? = some o
  rw [Array.getElem?_push, if_neg (by omega)]
  exact h.head

theorem overwritten (h : Settled o old level m) (n : Int) :
    Settled o old level (m.overwritten n) := by
  have hclean : Clean o (m.overwritten n) → Clean o m := by
    refine fun hclean => ⟨hclean.once, ?_⟩
    have hknown := hclean.known
    rw [Machine.past_overwritten] at hknown
    exact hknown.of_append
  refine ⟨⟨h.toStanding.overwritten n, h.head, fun hc => (h.told (hclean hc)).overwritten n⟩,
    fun hc => ?_⟩
  rw [Machine.stretch_overwritten]
  exact h.settled (hclean hc)

/-- What others record changes nothing, if it leaves the recording of this observer as it is. -/
theorem recorded (h : Settled o old level m) {r : Recordings}
    (hr : Clean o m → r.of o = m.recordings.of o) :
    Settled o old level { m with recordings := r } := by
  refine ⟨h.toTracked.recorded r, fun hc => ?_⟩
  have hclean : Clean o m := ⟨hc.once, hc.known⟩
  show (r.of o).Describes old (stretchOf m.past)
  rw [hr hclean]
  exact h.settled hclean

end Settled

/-! ## Transitions -/

/-- After the record for debugging failed, there is a cost that failed to be known: the machine is
    not `Clean`. -/
theorem Unreported.not_clean {s : S} {cause : Failure}
    (h : Unreported level (some s) cause m.past) : ¬ Clean o m :=
  fun hclean => h.not_quiet (.inr hclean.known)

/-- After a start its news are `Due`, unless it failed. -/
theorem Settled.entered (h : Settled o old level m)
    {result : Except Halt (News S) × Machine W (LocalSearch W S) S} (hm : Entered m result) :
    Action.After result (Due o old level)
      (Halt.Leaves (Settled o old level) (Tracked o old level)) := by
  have htracked : Tracked o old level result.2 :=
    h.toTracked.unseen (h.toStanding.entered hm) hm.unseen
  cases hm with
  | failed ha => exact h.aside ha
  | unreported ha ha' hcost =>
    exact ⟨htracked, fun hclean => absurd hclean hcost.not_clean⟩
  | @entered initial m₁ m₂ ha ha' =>
    have hstretch := Machine.stretch_chosen ha'
    exact ⟨htracked, initial, rfl, hstretch⟩

/-- After a step its news are `Due`, unless it failed. -/
theorem Settled.strode (h : Settled o old level m)
    {result : Except Halt (News S) × Machine W (LocalSearch W S) S} (hm : Strode m result) :
    Action.After result (Due o old level)
      (Halt.Leaves (Settled o old level) (Tracked o old level)) := by
  have htracked : Tracked o old level result.2 :=
    h.toTracked.unseen (h.toStanding.strode hm) hm.unseen
  have hunseen := hm.unseen
  cases hm with
  | failed ha => exact h.aside ha
  | unreported hready hjudges ha ha' hcost =>
    obtain ⟨s, hs⟩ := current_judged h.shown.located hready ha ha'
    rw [hs] at hcost
    exact ⟨htracked, fun hclean => absurd hclean hcost.not_clean⟩
  | @strode neighbor accepted m₁ m₂ hready hjudges ha ha' =>
    obtain ⟨st, hst⟩ := h.shown.located.stretch hready
    refine ⟨htracked, st, Machine.stretch_judged ha ha' hst, fun hclean => ?_⟩
    have hsettled := h.settled (hclean.of_unseen hunseen)
    rw [hst] at hsettled
    rw [hunseen.recordings]
    exact hsettled

/-! ## Observers -/

/-- The first observer records the news, and its recording describes the history again. -/
theorem Due.recorded {news : News S} (h : Due o old level news m) :
    Settled o old level ((Action.record LocalSearch.method o news).runOn
      (m.glimpsed (.notified 0 o news))).2 := by
  -- The observer itself may look while its recording lags behind.
  have hglimpsed : Tracked o old level (m.glimpsed (.notified 0 o news)) :=
    h.1.glimpsed (fun _ => rfl) fun hother => by simp [Entry.isNoticeFor] at hother
  obtain ⟨r, ha⟩ := Action.aside_record LocalSearch.method o news (m.glimpsed (.notified 0 o news))
  have hunseen := Machine.Unseen.of_aside ha
  have hrecorded := hglimpsed.recorded r
  have htracked := hrecorded.unseen (hrecorded.toStanding.aside ha) hunseen
  refine ⟨htracked, fun hclean => ?_⟩
  have hclean' : Clean o (m.glimpsed (.notified 0 o news)) :=
    ⟨(hclean.of_unseen hunseen).once, (hclean.of_unseen hunseen).known⟩
  have hstretch : stretchOf (m.glimpsed (.notified 0 o news)).past = stretchOf m.past :=
    m.stretch_glimpsed fun _ => rfl
  rw [show stretchOf ((Action.record LocalSearch.method o news).runOn
    (m.glimpsed (.notified 0 o news))).2.past = _ from ha.stretch.trans hstretch]
  cases news with
  | started solution =>
    obtain ⟨s, rfl, hst⟩ := h.2
    rw [hst]
    exact tells_of_started hclean.known
  | stepped neighbor accepted =>
    obtain ⟨st, hst, htells⟩ := h.2
    have hcurrent : m.solver.inner.current = some (st.decide neighbor accepted).current :=
      h.1.shown.located.current_of_stretch hst
    rw [hst]
    exact tells_of_stepped (htells hclean'.of_glimpsed) hcurrent hclean.known

/-- Another observer that records leaves this recording alone. -/
theorem Settled.record_other (h : Settled o old level m) {o' : ObserverId} (news : News S)
    (hother : Clean o m → o' ≠ o) :
    Settled o old level ((Action.record LocalSearch.method o' news).runOn m).2 := by
  obtain ⟨r, ha⟩ := Action.aside_record LocalSearch.method o' news m
  refine (h.recorded fun hclean => ?_).aside ha
  have hr : ((Action.record LocalSearch.method o' news).runOn m).2.recordings = r := ha.recordings
  rw [← hr, recordings_of_record, if_neg (hother hclean)]

theorem Settled.harmless (o : ObserverId) (old : Trajectory) (level : Int) :
    Program.Harmless LocalSearch.method
      (Settled o old level : Machine W (LocalSearch W S) S → Prop) (Tracked o old level) where
  hook x := LocalSearch.keeps_of_beside (fun _ _ h ha => h.aside ha) (.hook x)
  looked := .of_run (fun _ => rfl) fun _ h => h.glimpsed fun _ => rfl
  read _ := .of_run (fun _ => rfl) fun _ h => h.glimpsed fun _ => rfl
  resumed := .of_run (fun _ => rfl) fun _ h => h.glimpsed fun _ => rfl

/-- Whatever an observer does that is not the first keeps the recording of the first. -/
theorem Settled.leads_later (cast : Cast W S) {serve : Call → Action W (LocalSearch W S) S Unit}
    (hs : ∀ c, Action.Keeps (Settled o old level) (Tracked o old level) (serve c))
    (news : News S) (place : Nat) (o' : ObserverId) :
    Action.Leads (fun m => Settled o old level m ∧ m.solver.observers[place + 1]? = some o')
      (Solver.notify LocalSearch.method cast serve news (place + 1) o')
      (fun _ => Settled o old level) (Halt.Leaves (Settled o old level) (Tracked o old level)) := by
  rintro m ⟨h, hlater⟩
  have hglimpsed : Settled o old level (m.glimpsed (.notified (place + 1) o' news)) :=
    h.glimpsed fun _ => rfl
  rw [Solver.notify, Action.run_bind, Action.run_noteSeen, Solver.react]
  cases cast.observer o' with
  | silent => exact hglimpsed
  | custom program => exact (Settled.harmless o old level).play hs _ _ hglimpsed
  | recorder =>
    exact Action.after_of_ended (Action.ended_record _ _ _ _)
      (hglimpsed.record_other news fun hclean => ne_of_once h.head hclean.once hlater)

/-- That the recording of the first observer describes the history is an invariant of all calls, in
    the sense of `Solver.Upheld`. -/
theorem Settled.upheld {cast : Cast W S} (hcast : cast.observer o = .recorder) (old : Trajectory)
    (level : Int) :
    Solver.Upheld LocalSearch.method cast
      (Settled o old level : Machine W (LocalSearch W S) S → Prop) (Tracked o old level)
      (Due o old level) where
  toHarmless := Settled.harmless o old level
  rest _ h := h.toTracked
  restDue _ _ h := h.1
  enter m h := h.entered (LocalSearch.entered_enter m)
  stride m h := h.strode (LocalSearch.strode_stride m)
  alone news m h hnone := by
    rw [h.1.head] at hnone
    cases hnone
  first serve hs news o' := by
    rintro m ⟨h, hfirst⟩
    obtain rfl : o = o' := Option.some.inj (h.1.head.symm.trans hfirst)
    rw [Solver.notify, Action.run_bind, Action.run_noteSeen, Solver.react, hcast]
    exact Action.after_of_ended (Action.ended_record _ _ _ _) h.recorded
  later serve hs news place o' := Settled.leads_later cast hs news place o'
  stopAsked := .of_run (fun _ => rfl) fun _ h => h.glimpsed fun _ => rfl
  log text := LocalSearch.keeps_of_beside (fun _ _ h ha => h.aside ha) (.log _ _ text [])
  observe o' := .of_run (fun _ => rfl) fun _ h => h.observed o'
  overwrite n := .of_run (fun _ => rfl) fun _ h => h.overwritten n

end

/-! ## What is recorded -/

omit [Candidate S] in
/-- The rejections at the end of a stretch can be counted among the flags alone. -/
theorem Stretch.rejections_eq (st : Stretch S) :
    st.rejections = ((st.decisions.map Prod.snd).rtakeWhile fun accepted => !accepted).length := by
  simp [rejections, List.rtakeWhile, ← List.map_reverse, List.takeWhile_map, Function.comp_def]

/-- The recording tells of the stretch, and agrees with what is seen: with `number_of_steps`, with
    the current solution, and with the count of rejections unless that was overwritten. -/
structure Faithful (t : Trajectory) (past : List (Entry S)) (seen : View S) (st : Stretch S) :
    Prop extends t.Tells st where
  steps : seen.steps = (t.accepted.toList.length : Nat)
  current : ∃ s v, seen.current = some s ∧ Candidate.costs s = .ok v ∧
    t.costs.toList.getLast? = some v
  stagnation : (∀ e ∈ past, e.isOverwriting = false) → seen.stagnation
    = some ((t.accepted.toList.rtakeWhile fun accepted => !accepted).length : Int)

/-- A recording that tells of the present stretch agrees with what is seen. -/
theorem Shown.faithful {level : Int} {past : List (Entry S)} {seen : View S} {t : Trajectory}
    (h : Shown level past seen) (hknown : CostsKnown past) {st : Stretch S}
    (hst : stretchOf past = some st) (ht : t.Tells st) : Faithful t past seen st := by
  refine ⟨ht, ?_, ?_, fun hcount => ?_⟩
  · rw [(h.counted (.inr hknown)).steps, decisionsOf, hst, ht.accepted, List.length_map]
    rfl
  · obtain ⟨v, hv, hlast⟩ := ht.last
    refine ⟨st.current, v, h.located.current_of_stretch hst, hv, ?_⟩
    rw [List.getLast?_eq_getElem?, ht.length]
    exact hlast
  · rw [h.located.stagnation_of_stretch hcount hst, ht.accepted, ← Stretch.rejections_eq]

/-- An observer that records, is the first of the list and listed only once has recorded what the
    commits of a search have made of it: its recording is `Faithful` whenever somebody else looks,
    and after every call that ended. Before the first start it has recorded nothing. -/
theorem recording_follows_commits {α : Type} (cast : Cast W S) (fuel : Nat)
    (caller : Program W S α) {m m' : Machine W (LocalSearch W S) S} (hfresh : m.Fresh)
    {o : ObserverId} (hcast : cast.observer o = .recorder)
    (hfirst : m.solver.observers[0]? = some o) {result : Except Halt α}
    (hrun : (caller.play LocalSearch.method
      (Solver.serve LocalSearch.method cast fuel)).runOn m = (result, m'))
    (honce : m'.solver.observers.count o = 1) (hknown : CostsKnown m'.past) :
    EverySight (fun before e seen => e.isNoticeFor o = false →
        (stretchOf before = none → seen.recordings.of o = m.recordings.of o) ∧
          ∀ st, stretchOf before = some st →
            Faithful (seen.recordings.of o) before seen.toView st) m'.past ∧
      (result ≠ .error .unfinished →
        (stretchOf m'.past = none → m'.recordings.of o = m.recordings.of o) ∧
          ∀ st, stretchOf m'.past = some st →
            Faithful (m'.recordings.of o) m'.past (LocalSearch.method.view m'.solver) st) := by
  have hupheld := (Settled.upheld hcast (m.recordings.of o) m.level).play fuel caller
  -- Nothing has happened yet, and the recording is as it was.
  have hfresh' : Settled o (m.recordings.of o) m.level m := by
    refine ⟨⟨hfresh.standing, hfirst, fun _ => ?_⟩, fun _ => ?_⟩ <;> rw [hfresh.past]
    · exact .nil
    · rfl
  have htracked := hupheld.leaves (fun _ h => h.toTracked) hfresh'
  have hsettled := hupheld.holds hfresh'
  rw [hrun] at htracked hsettled
  have hclean : Clean o m' := ⟨honce, hknown⟩
  refine ⟨fun before e after hsplit seen hseen hother => ?_, fun hend => ?_⟩
  · have hdescribes := htracked.told hclean before e after hsplit seen hseen hother
    have hshown := htracked.sights before e after hsplit seen hseen
    rw [hsplit] at hknown
    refine ⟨fun hnone => ?_, fun st hst => ?_⟩
    · rwa [hnone] at hdescribes
    · rw [hst] at hdescribes
      exact hshown.faithful hknown.of_append hst hdescribes
  · have hdescribes := (hsettled hend).settled hclean
    refine ⟨fun hnone => ?_, fun st hst => ?_⟩
    · rwa [hnone] at hdescribes
    · rw [hst] at hdescribes
      exact htracked.shown.faithful hknown hst hdescribes

/-- The recording of a start in which another observer steps, and of another step. -/
theorem recording_follows_commits_eager :
    let caller : Program (List Bare) Bare Unit := do
      Program.calling .start
      Program.calling .step
    let outcome := (caller.play LocalSearch.method
      (Solver.serve LocalSearch.method Cast.eager 9)).runOn
        (Machine.listed ([5, 3, 4].map Bare.costing) #[0, 1] Level.info)
    (outcome.2.recordings.of 0).accepted.toList = [true, false] ∧
      ∀ st, stretchOf outcome.2.past = some st → Faithful (outcome.2.recordings.of 0)
        outcome.2.past (LocalSearch.method.view outcome.2.solver) st := by
  intro caller outcome
  have hasked : outcome.2.past.all (fun e => match e with
      | .probed (.costs .failing) => false
      | _ => true) = true := by decide +kernel
  have hknown : CostsKnown outcome.2.past := by
    intro s hs
    cases s with
    | costing n => exact ⟨.int n, rfl⟩
    | failing => exact absurd (List.all_eq_true.1 hasked _ hs) Bool.false_ne_true
  have hend : outcome.1 ≠ .error .unfinished := by decide +kernel
  have hfollows := recording_follows_commits Cast.eager 9 caller (Machine.fresh_listed _ _ _)
    (o := 0) rfl rfl (Prod.eta outcome).symm (by decide +kernel) hknown
  exact ⟨by decide +kernel, (hfollows.2 hend).2⟩

/-! ## Known costs -/

/-- Whether a cost is asked for that cannot be known. -/
def Entry.asksFailing : Entry Bare → Bool
  | .probed (.costs s) => s = .failing
  | _ => false

theorem Bare.costsKnown {past : List (Entry Bare)} (h : past.all (!·.asksFailing) = true) :
    CostsKnown past := by
  intro s hs
  cases s with
  | costing n => exact ⟨.int n, rfl⟩
  | failing => exact absurd (List.all_eq_true.1 h _ hs) Bool.false_ne_true

end HillClimb
