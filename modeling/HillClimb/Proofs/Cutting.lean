import HillClimb.Proofs.Commits
import HillClimb.Proofs.Course
import HillClimb.Proofs.Hindsight
import HillClimb.Proofs.SideBySide
import HillClimb.Proofs.Turns

set_option autoImplicit false

/-! # Cutting a run

A run of so many steps may be cut in two: a run of the first few of them, and then another run of
the rest (`Solver.runTwice`), end as the one run does, with the same solution or the same failure
and on the same machine. They differ only in that at the cut the first run writes its last record,
the second run writes its first one, and the stop condition is consulted once more
(`Machine.CutAlike`). This is so if the stop condition answers by what it sees (`Program.Reads`),
and it does not matter where the run is cut: before its first step, behind its end, or where the
limit and the stop condition end it at once.

The laps are cut first (`Laps.cut`), then the run (`Solver.ends_twice_of_run`,
`Solver.ends_run_of_twice`). The result is `run_can_be_cut`. -/

namespace HillClimb

variable {W I S α : Type}

/-! ## Stop conditions that only read -/

/-- Whether the entry tells only of a look at the solver, or of a question asked of a solution. -/
def Entry.isGlance : Entry S → Bool
  | .looked _ => true
  | .read _ _ => true
  | .probed _ => true
  | _ => false

theorem Entry.isLandmark_of_isGlance {e : Entry S} (h : e.isGlance) : e.isLandmark = false := by
  cases e <;> simp_all [isGlance, isLandmark]

/-- The machine with more entries in its transcript. -/
def Machine.notedAll (m : Machine W I S) (l : List (Entry S)) : Machine W I S :=
  { m with transcript := m.transcript ++ l.toArray }

/-- The program answers by what it sees and by the world that it finds, and changes nothing: what it
    leaves are entries that are `Entry.isGlance`. -/
def Program.Reads (method : Method W I S) (p : Program W S α)
    (answer : Sight S → W → Except Failure α) : Prop :=
  ∀ serve m, ∃ glances : List (Entry S), (∀ e ∈ glances, e.isGlance) ∧
    (p.play method serve).runOn m
      = ((answer (method.sight m) m.world).mapError .failed, m.notedAll glances)

/-- To look once and answer by the `View` is to read. -/
theorem Program.reads_look (method : Method W I S) (answer : View S → W → Except Failure α) :
    (Program.look fun seen world => orFail (answer seen world)).Reads method
      fun seen => answer seen.toView := by
  intro serve m
  refine ⟨[.looked (method.sight m)], by simp [Entry.isGlance], ?_⟩
  rw [play, Action.run_bind, Action.run_noteSeen]
  dsimp only
  rw [Action.run_bind, Action.run_get]
  have hview : (method.sight m).toView = method.view m.solver := rfl
  dsimp only
  rw [hview]
  cases answer (method.view m.solver) m.world with
  | ok a => simp [orFail, play, Action.run_pure, Machine.notedAll]
  | error cause => simp [orFail, play, Action.run_fail, Machine.notedAll]

/-- What a consultation leaves of a stop condition that only reads. -/
def Machine.consulted (method : Method W I S) (m : Machine W I S) (glances : List (Entry S)) :
    Machine W I S :=
  m.notedAll (.stopAsked (method.sight m) :: glances)

section

variable [Candidate S] {method : Method W I S} {cast : Cast W S} {stop : StopId}
  {m m₀ m₁ m' : Machine W I S}

theorem Solver.Consults.reads {answer : Sight S → W → Except Failure Bool}
    (hstop : (cast.stop stop).Reads method answer) {outcome : Except Failure Bool}
    (h : Solver.Consults method cast stop m outcome m') :
    ∃ glances : List (Entry S), (∀ e ∈ glances, e.isGlance) ∧ m' = m.consulted method glances := by
  obtain ⟨fuel, h⟩ := h
  obtain ⟨glances, hglances, hplay⟩ := hstop (Solver.serve method cast fuel)
    { m with transcript := m.transcript.push (.stopAsked (method.sight m)) }
  refine ⟨glances, hglances, ?_⟩
  dsimp only at h
  rw [Solver.consult, Action.run_bind, Action.run_noteSeen] at h
  dsimp only at h
  rw [hplay] at h
  obtain ⟨-, rfl⟩ := Prod.mk.inj h
  simp [Machine.consulted, Machine.notedAll]

/-! ## Laps with another limit -/

variable {a b count k : Nat} {result : Except Failure Nat}

theorem limited_some {a count : Nat} : Limited (some (a : Int)) count ↔ a ≤ count := by
  simp [Limited]

theorem Laps.unique {limit : Option Int} {result' : Except Failure Nat}
    (h : Laps method cast stop limit count m result m')
    (h' : Laps method cast stop limit count m result' m₁) : result = result' ∧ m' = m₁ :=
  Action.Ends.unique (Solver.steady_laps stop _ count) (Solver.ends_laps.2 h)
    (Solver.ends_laps.2 h')

/-- A lap below the limit that is answered in the negative is followed by the others. -/
theorem laps_iff_of_lap {limit : Option Int} {m₂ : Machine W I S}
    (hasked : Solver.Consults method cast stop m (.ok false) m₁) (hbelow : ¬ Limited limit count)
    (hstep : Solver.Serves method cast .step m₁ (.ok ()) m₂) :
    Laps method cast stop limit count m result m' ↔
      Laps method cast stop limit (count + 1) m₂ result m' := by
  refine ⟨fun h => ?_, .lap hasked hbelow hstep⟩
  -- What a consultation answers and how a step ends is determined.
  have hanswer : ∀ {outcome m₃}, Solver.Consults method cast stop m outcome m₃ →
      outcome = .ok false ∧ m₃ = m₁ := fun h =>
    Action.Ends.unique (Solver.steady_consult stop) h hasked
  have hmade : ∀ {outcome m₃}, Solver.Serves method cast .step m₁ outcome m₃ →
      outcome = .ok () ∧ m₃ = m₂ := fun h =>
    Action.Ends.unique (Solver.steady_serve .step) h hstep
  cases h with
  | last h =>
    cases h with
    | unanswered hasked' => cases (hanswer hasked').1
    | ended hasked' hover =>
      obtain rfl : _ = false := Except.ok.inj (hanswer hasked').1
      exact absurd (hover.resolve_left (by simp)) hbelow
    | failed hasked' _ hstep' =>
      obtain ⟨-, rfl⟩ := hanswer hasked'
      cases (hmade hstep').1
  | lap hasked' _ hstep' hrest =>
    obtain ⟨-, rfl⟩ := hanswer hasked'
    obtain ⟨-, rfl⟩ := hmade hstep'
    exact hrest

theorem not_limited_add {a b count : Nat} (h : ¬ Limited (some (a : Int)) count) :
    ¬ Limited (some ((a + b : Nat) : Int)) count := by
  rw [limited_some] at h ⊢
  omega

/-- With a lower limit the laps end, too. -/
theorem Laps.exists_lower (h : Laps method cast stop (some ((a + b : Nat) : Int)) count m result m')
    (hcount : count ≤ a) :
    ∃ result₁ m₁, Laps method cast stop (some (a : Int)) count m result₁ m₁ := by
  induction h with
  | @last count m m' result h =>
    cases h with
    | unanswered hasked => exact ⟨_, _, .last (.unanswered hasked)⟩
    | ended hasked hover =>
      refine ⟨_, _, .last (.ended hasked (hover.imp_right fun hlimited => ?_))⟩
      rw [limited_some] at hlimited ⊢
      omega
    | failed hasked _ hstep =>
      by_cases hlimited : Limited (some (a : Int)) count
      · exact ⟨_, _, .last (.ended hasked (.inr hlimited))⟩
      · exact ⟨_, _, .last (.failed hasked hlimited hstep)⟩
  | @lap count m m₁ m₂ m' result hasked _ hstep _ ih =>
    by_cases hlimited : Limited (some (a : Int)) count
    · exact ⟨_, _, .last (.ended hasked (.inr hlimited))⟩
    · obtain ⟨result₁, m₃, hrest⟩ := ih (by rw [limited_some] at hlimited; omega)
      exact ⟨result₁, m₃, .lap hasked hlimited hstep hrest⟩

/-- Laps that fail within a lower limit fail within the higher one. -/
theorem Laps.failed_higher {cause : Failure}
    (h : Laps method cast stop (some (a : Int)) count m (.error cause) m') :
    Laps method cast stop (some ((a + b : Nat) : Int)) count m (.error cause) m' := by
  generalize hresult : (Except.error cause : Except Failure Nat) = result at h
  induction h with
  | last h =>
    cases h with
    | unanswered hasked => exact .last (.unanswered hasked)
    | ended => cases hresult
    | failed hasked hbelow hstep => exact .last (.failed hasked (not_limited_add hbelow) hstep)
  | lap hasked hbelow hstep _ ih => exact .lap hasked (not_limited_add hbelow) hstep (ih hresult)

theorem limited_shift {a b count : Nat} :
    Limited (some ((a + b : Nat) : Int)) (a + count) ↔ Limited (some (b : Int)) count := by
  rw [limited_some, limited_some]
  omega

/-- Laps counted from the cut on: `a` laps less, within a limit that is lower by `a`. -/
theorem laps_shift (count : Nat) :
    Laps method cast stop (some ((a + b : Nat) : Int)) (a + count) m result m' ↔
      ∃ rest, result = rest.map (a + ·) ∧
        Laps method cast stop (some (b : Int)) count m rest m' := by
  constructor
  · intro h
    generalize hall : a + count = all at h
    induction h generalizing count with
    | last h =>
      subst hall
      cases h with
      | unanswered hasked => exact ⟨.error _, rfl, .last (.unanswered hasked)⟩
      | ended hasked hover =>
        exact ⟨.ok count, rfl, .last (.ended hasked (hover.imp_right limited_shift.1))⟩
      | failed hasked hbelow hstep =>
        exact ⟨.error _, rfl, .last (.failed hasked (mt limited_shift.2 hbelow) hstep)⟩
    | lap hasked hbelow hstep _ ih =>
      subst hall
      obtain ⟨rest, hrest, hlaps⟩ := ih (count + 1) (Nat.add_assoc a count 1).symm
      exact ⟨rest, hrest, .lap hasked (mt limited_shift.2 hbelow) hstep hlaps⟩
  · rintro ⟨rest, rfl, h⟩
    induction h with
    | last h =>
      cases h with
      | unanswered hasked => exact .last (.unanswered hasked)
      | ended hasked hover => exact .last (.ended hasked (hover.imp_right limited_shift.2))
      | failed hasked hbelow hstep =>
        exact .last (.failed hasked (mt limited_shift.1 hbelow) hstep)
    | lap hasked hbelow hstep _ ih => exact .lap hasked (mt limited_shift.1 hbelow) hstep ih

/-- A consultation that says so ends the laps, whatever the limit. -/
theorem laps_iff_of_stopped {limit : Option Int}
    (hasked : Solver.Consults method cast stop m (.ok true) m₁) :
    Laps method cast stop limit count m result m' ↔ result = .ok count ∧ m' = m₁ := by
  have hlast : Laps method cast stop limit count m (.ok count) m₁ :=
    .last (.ended hasked (.inl rfl))
  constructor
  · intro h
    exact h.unique hlast
  · rintro ⟨rfl, rfl⟩
    exact hlast

/-- The consultation that ends the laps within a lower limit comes where those within the higher
    limit are cut. From there on they are the laps within the rest of the limit. -/
theorem Laps.cut (h : Laps method cast stop (some (a : Int)) count m (.ok k) m')
    (hcount : count ≤ a) :
    ∃ m₀ answer, Solver.Consults method cast stop m₀ (.ok answer) m' ∧
      ∀ result m₁, Laps method cast stop (some ((a + b : Nat) : Int)) count m result m₁ ↔
        ∃ rest, result = rest.map (k + ·) ∧
          Laps method cast stop (some (b : Int)) 0 m₀ rest m₁ := by
  generalize hresult : (Except.ok k : Except Failure Nat) = result at h
  induction h with
  | @last count m m' result h =>
    cases h with
    | unanswered => cases hresult
    | @ended _ answer hasked hover =>
      obtain rfl : k = count := Except.ok.inj hresult
      refine ⟨m, answer, hasked, fun result m₁ => ?_⟩
      cases answer with
      | true =>
        -- Neither the laps nor the rest of them go on.
        simp only [laps_iff_of_stopped hasked]
        constructor
        · rintro ⟨rfl, rfl⟩
          exact ⟨.ok 0, rfl, rfl, rfl⟩
        · rintro ⟨rest, rfl, rfl, rfl⟩
          exact ⟨rfl, rfl⟩
      | false =>
        obtain rfl : k = a := by
          have := limited_some.1 (hover.resolve_left (by simp))
          omega
        exact laps_shift 0
    | failed => cases hresult
  | @lap count m m₁ m₂ m' result hasked hbelow hstep _ ih =>
    obtain ⟨m₀, answer, hlast, hiff⟩ := ih (by rw [limited_some] at hbelow; omega) hresult
    refine ⟨m₀, answer, hlast, fun result m₁ => ?_⟩
    rw [laps_iff_of_lap hasked (not_limited_add hbelow) hstep]
    exact hiff result m₁

end

/-! ## Searches that stay ready -/

variable [Candidate S]

/-- The search is ready, and it is the one that it was on the first machine. -/
structure ReadyLike (m₀ m : Machine W (LocalSearch W S) S) : Prop where
  ready : m.solver.phase = .ready
  blank : m.solver.blank = m₀.solver.blank
  level : m.level = m₀.level

namespace ReadyLike

variable {m₀ m m' : Machine W (LocalSearch W S) S}

omit [Candidate S] in
theorem firstRecord (h : ReadyLike m₀ m) : m.solver.firstRecord = m₀.solver.firstRecord := by
  have hname := congrArg (fun s : Solver (LocalSearch W S) => s.name) h.blank
  have hseed := congrArg (fun s : Solver (LocalSearch W S) => s.seed) h.blank
  change m.solver.name = m₀.solver.name at hname
  change m.solver.seed = m₀.solver.seed at hseed
  rw [Solver.firstRecord, hname, hseed, Solver.firstRecord]

omit [Candidate S] in
theorem lastRecord (h : ReadyLike m₀ m) (count : Nat) :
    m.solver.lastRecord count = m₀.solver.lastRecord count := by
  have hname := congrArg (fun s : Solver (LocalSearch W S) => s.name) h.blank
  change m.solver.name = m₀.solver.name at hname
  rw [Solver.lastRecord, hname, Solver.lastRecord]

theorem lasting (m₀ : Machine W (LocalSearch W S) S) : LocalSearch.Lasting (ReadyLike m₀ ·) where
  aside m m' h ha := by
    refine ⟨?_, ?_, ha.level.trans h.level⟩ <;> rw [ha.solver]
    · exact h.ready
    · exact h.blank
  recorded _ _ h := ⟨h.ready, h.blank, h.level⟩
  glimpsed _ _ _ h := ⟨h.ready, h.blank, h.level⟩
  observed _ _ h := ⟨h.ready, h.blank, h.level⟩
  overwritten _ _ h := ⟨h.ready, h.blank, h.level⟩
  entered m result h hm := by
    refine ⟨?_, hm.blank.trans h.blank, hm.unseen.level.trans h.level⟩
    rcases result with ⟨halt | news, m'⟩
    · exact (hm.phase_of_failed rfl).trans h.ready
    · cases hm
      rfl
  strode m result h hm :=
    ⟨hm.phase.trans h.ready, hm.blank.trans h.blank, hm.unseen.level.trans h.level⟩

omit [Candidate S] in
theorem logged (h : ReadyLike m₀ m) (text : String) : ReadyLike m₀ (m.logged text) := by
  obtain ⟨journal, hlogged⟩ := m.logged_eq text
  rw [hlogged]
  exact ⟨h.ready, h.blank, h.level⟩

end ReadyLike

variable {cast : Cast W S} {stop : StopId} {limit : Option Int}
  {m m' : Machine W (LocalSearch W S) S}

theorem readyLike_of_start (h : Solver.Serves LocalSearch.method cast .start m (.ok ()) m') :
    ReadyLike m m' := by
  obtain ⟨fuel, h⟩ := h
  cases fuel with
  | zero => exact nomatch (congrArg Prod.fst h :)
  | succ fuel =>
    rcases Action.bind_ended h with ⟨cause, hfailed, -⟩ | ⟨news, m₁, henter, hround⟩
    · cases hfailed
    have hm₁ : ReadyLike m m₁ := by
      have hentered := LocalSearch.entered_enter m
      rw [henter] at hentered
      refine ⟨?_, hentered.blank, hentered.unseen.level⟩
      cases hentered
      rfl
    have hupheld := (ReadyLike.lasting m).upheld cast
    have hkept := hupheld.round_zero (hupheld.serve fuel) news fuel m₁ hm₁
    rw [hround] at hkept
    exact hkept

theorem readyLike_of_setOut
    (h : RunEvent.Follow LocalSearch.method cast stop (RunEvent.setOut m.solver.phase) m m') :
    ReadyLike m m' := by
  cases hphase : m.solver.phase with
  | uninitialized =>
    rw [hphase] at h
    obtain ⟨m₁, hstart, rfl⟩ := RunEvent.follow_setOut_uninitialized.1 h
    exact (readyLike_of_start hstart).logged _
  | ready =>
    rw [hphase] at h
    obtain rfl := RunEvent.follow_setOut_ready.1 h
    exact ReadyLike.logged ⟨hphase, rfl, rfl⟩ _

theorem ReadyLike.laps {m₀ : Machine W (LocalSearch W S) S} (h : ReadyLike m₀ m) {count : Nat}
    {result : Except Failure Nat}
    (hlaps : Laps LocalSearch.method cast stop limit count m result m') : ReadyLike m₀ m' := by
  obtain ⟨fuel, hrun⟩ := Solver.ends_laps.2 hlaps
  have hupheld := (ReadyLike.lasting m₀).upheld cast
  have hkept := (hupheld.laps (hupheld.serve fuel) stop (limit.map .int) fuel fuel count).leaves
    (fun _ hm => hm) h
  rw [hrun] at hkept
  exact hkept

/-! ## Runs -/

namespace Machine

/-- The machine after the last record of a run that made its laps with this result. -/
def concluded (m : Machine W (LocalSearch W S) S) : Except Failure Nat →
    Machine W (LocalSearch W S) S
  | .ok k => m.logged (m.solver.lastRecord k)
  | .error _ => m

/-- What a run returns that made its laps with this result. -/
def returned (m : Machine W (LocalSearch W S) S) (result : Except Failure Nat) :
    Except Failure (Option S) :=
  result.map fun _ => m.solver.inner.current

end Machine

/-- How a run of a local search ends: its start fails, or it sets out and makes its `Laps`. -/
theorem ends_run_iff (n : Nat) {result : Except Failure (Option S)} :
    Action.Ends (fun fuel => Solver.run LocalSearch.method cast fuel stop (some (.int n))) m
        result m' ↔
      (m.solver.phase = .uninitialized ∧ ∃ cause, result = .error cause ∧
        Solver.Serves LocalSearch.method cast .start m (.error cause) m') ∨
      ∃ m₁ m₂ made,
        RunEvent.Follow LocalSearch.method cast stop (RunEvent.setOut m.solver.phase) m m₁ ∧
        Laps LocalSearch.method cast stop (some (n : Int)) 0 m₁ made m₂ ∧
        result = m₂.returned made ∧ m' = m₂.concluded made := by
  refine (Solver.ends_run (some (n : Int))).trans ?_
  constructor
  · rintro ⟨outcome, hcourse, rfl⟩
    cases hcourse with
    | unstarted hphase hstart => exact .inl ⟨hphase, _, rfl, hstart⟩
    | onward hout hrest =>
      cases hrest with
      | failed hlaps => exact .inr ⟨_, _, _, hout, hlaps, rfl, rfl⟩
      | finished hlaps hreport =>
        obtain rfl := hreport
        refine .inr ⟨_, _, _, hout, hlaps, ?_, rfl⟩
        obtain ⟨journal, hlogged⟩ := Machine.logged_eq _ _
        rw [hlogged]
        rfl
  · rintro (⟨hphase, cause, rfl, hstart⟩ | ⟨m₁, m₂, made, hout, hlaps, rfl, rfl⟩)
    · exact ⟨.error cause, .unstarted hphase hstart, rfl⟩
    · cases made with
      | error cause => exact ⟨.error cause, .onward hout (.failed hlaps), rfl⟩
      | ok k =>
        refine ⟨.ok (), .onward hout (.finished hlaps rfl), ?_⟩
        obtain ⟨journal, hlogged⟩ := m₂.logged_eq (m₂.solver.lastRecord k)
        rw [Machine.concluded, hlogged]
        rfl

/-! ## The cut -/

/-- The records with these texts, as far as such records are written. -/
def Machine.recordsOf (m : Machine W I S) (texts : List String) : Array LogRecord :=
  if m.level ≤ Level.info then
    (texts.map fun text => ⟨Level.info, .lifecycle, text, []⟩).toArray
  else #[]

omit [Candidate S] in
theorem Machine.logged_logged (m : Machine W (LocalSearch W S) S) (text text' : String) :
    (m.logged text).logged text'
      = { m with journal := m.journal ++ m.recordsOf [text, text'] } := by
  unfold logged
  by_cases h : m.level ≤ Level.info
  · simp only [h, if_true, recordsOf]
    rfl
  · simp [h, recordsOf]

/-- Two ends of a run that was called on the machine `m`: in one, and cut in two. The run may have
    failed before the cut. Otherwise all that happened from the cut on, on the machine `n`, is the
    same. Before that the run that was cut consulted the stop condition once more, and it wrote the
    last record of its first half and the first record of its second. In the end each of them writes
    a last record, if it returns, of its own number of steps. -/
inductive Machine.CutAlike (m : Machine W (LocalSearch W S) S) : Except Failure (Option S) →
    Machine W (LocalSearch W S) S → Machine W (LocalSearch W S) S → Prop
  | before {cause : Failure} {m₁ : Machine W (LocalSearch W S) S} :
      CutAlike m (.error cause) m₁ m₁
  | after {n : Machine W (LocalSearch W S) S} {past : Array (Entry S)} {journal : Array LogRecord}
      {seen : Sight S} {glances : List (Entry S)} {k : Nat} {rest : Except Failure Nat}
      (hglances : ∀ e ∈ glances, e.isGlance) :
      CutAlike m (n.returned rest) ((n.recalling past journal).concluded (rest.map (k + ·)))
        ((n.recalling (past ++ (.stopAsked seen :: glances).toArray)
          (journal ++ m.recordsOf [m.solver.lastRecord k, m.solver.firstRecord])).concluded rest)

/-- The two machines are the same but for looks and questions in their transcripts, and but for
    their journals. -/
structure Machine.SameBut (m₁ m₂ : Machine W I S) : Prop where
  solver : m₂.solver = m₁.solver
  world : m₂.world = m₁.world
  generators : m₂.generators = m₁.generators
  recordings : m₂.recordings = m₁.recordings
  landmarks : m₂.landmarks = m₁.landmarks

omit [Candidate S] in
theorem Machine.SameBut.concluded {n n' : Machine W (LocalSearch W S) S} (h : n.SameBut n')
    (made made' : Except Failure Nat) : (n.concluded made).SameBut (n'.concluded made') := by
  have hsame : ∀ (n : Machine W (LocalSearch W S) S) made,
      ∃ journal, n.concluded made = { n with journal } := by
    intro n made
    cases made with
    | ok k => exact n.logged_eq _
    | error cause => exact ⟨n.journal, rfl⟩
  obtain ⟨journal, hn⟩ := hsame n made
  obtain ⟨journal', hn'⟩ := hsame n' made'
  rw [hn, hn']
  exact ⟨h.solver, h.world, h.generators, h.recordings, h.landmarks⟩

omit [Candidate S] in
theorem Machine.CutAlike.same {result : Except Failure (Option S)}
    {m m₁ m₂ : Machine W (LocalSearch W S) S} (h : m.CutAlike result m₁ m₂) : m₁.SameBut m₂ := by
  cases h with
  | before => exact ⟨rfl, rfl, rfl, rfl, rfl⟩
  | @after n past journal seen glances k rest hglances =>
    have hnone : (Entry.stopAsked seen :: glances).filter Entry.isLandmark = [] := by
      refine List.filter_eq_nil_iff.2 fun e he => ?_
      rcases List.mem_cons.1 he with rfl | he
      · simp [Entry.isLandmark]
      · simp [Entry.isLandmark_of_isGlance (hglances e he)]
    refine Machine.SameBut.concluded ?_ _ _
    refine ⟨rfl, rfl, rfl, rfl, ?_⟩
    simp only [Machine.landmarks, Machine.past, Machine.recalling, Array.toList_append,
      List.filter_append, hnone, List.append_nil]

section

variable {m₀ m₁ m₂ : Machine W (LocalSearch W S) S} {a b k : Nat}

/-- Laps do not look back: they end alike on a machine that is `recalling` more. -/
theorem laps_recalling {past : Array (Entry S)} {journal : Array LogRecord} {count : Nat}
    {made : Except Failure Nat} :
    Laps LocalSearch.method cast stop limit count (m.recalling past journal) made m' ↔
      ∃ n, Laps LocalSearch.method cast stop limit count m made n ∧
        m' = n.recalling past journal := by
  simp only [← Solver.ends_laps]
  exact Action.Forgetful.ends fun fuel => Solver.forgetful_laps LocalSearch.forgetful_method
    (Solver.forgetful_serve LocalSearch.forgetful_method fuel) _ _ _ _ _

/-- What laps do, they do on the machine that forgets what was before them. -/
theorem laps_forgetting {count : Nat} {made : Except Failure Nat} :
    Laps LocalSearch.method cast stop limit count m made m' ↔
      ∃ n, Laps LocalSearch.method cast stop limit count m.forgetting made n ∧
        m' = n.recalling m.transcript m.journal := by
  have hrecalling : Laps LocalSearch.method cast stop limit count
      (m.forgetting.recalling m.transcript m.journal) made m' ↔ _ := laps_recalling
  rwa [m.recalling_forgetting] at hrecalling

/-- Between the last record of a run and the laps of the next one only the past grows. -/
theorem logged_concluded {glances : List (Entry S)}
    (h : ReadyLike m (m₀.consulted LocalSearch.method glances)) (k : Nat) :
    let ended := (m₀.consulted LocalSearch.method glances).concluded (.ok k)
    ended.logged ended.solver.firstRecord = m₀.forgetting.recalling
      (m₀.transcript ++ (.stopAsked (LocalSearch.method.sight m₀) :: glances).toArray)
      (m₀.journal ++ m.recordsOf [m.solver.lastRecord k, m.solver.firstRecord]) := by
  intro ended
  have hlast : ended
      = (m₀.consulted LocalSearch.method glances).logged (m.solver.lastRecord k) := by
    rw [← h.lastRecord k]
    rfl
  have hrecords : ∀ texts,
      (m₀.consulted LocalSearch.method glances).recordsOf texts = m.recordsOf texts := by
    intro texts
    rw [Machine.recordsOf, h.level, Machine.recordsOf]
  rw [hlast, (h.logged _).firstRecord, Machine.logged_logged, hrecords]
  simp [Machine.consulted, Machine.notedAll, Machine.recalling, Machine.forgetting]

/-- A run that follows on another one makes the laps that the first one would have made from its
    last consultation on. -/
theorem ends_resumed {glances : List (Entry S)}
    (hlike : ReadyLike m (m₀.consulted LocalSearch.method glances)) (k : Nat)
    {result : Except Failure (Option S)} :
    Action.Ends (fun fuel => Solver.run LocalSearch.method cast fuel stop (some (.int b)))
        ((m₀.consulted LocalSearch.method glances).concluded (.ok k)) result m' ↔
      ∃ n rest, Laps LocalSearch.method cast stop (some (b : Int)) 0 m₀.forgetting rest n ∧
        result = n.returned rest ∧
        m' = (n.recalling
          (m₀.transcript ++ (.stopAsked (LocalSearch.method.sight m₀) :: glances).toArray)
          (m₀.journal ++ m.recordsOf [m.solver.lastRecord k, m.solver.firstRecord])).concluded
            rest := by
  have hready : ((m₀.consulted LocalSearch.method glances).concluded (.ok k)).solver.phase
      = .ready := (hlike.logged _).ready
  refine (ends_run_iff b).trans ?_
  rw [hready]
  constructor
  · rintro (⟨hphase, -⟩ | ⟨m₁, m₂, rest, hout, hlaps, rfl, rfl⟩)
    · cases hphase
    · rw [RunEvent.follow_setOut_ready.1 hout, logged_concluded hlike] at hlaps
      obtain ⟨n, hrest, rfl⟩ := laps_recalling.1 hlaps
      exact ⟨n, rest, hrest, rfl, rfl⟩
  · rintro ⟨n, rest, hlaps, rfl, rfl⟩
    refine .inr ⟨_, n.recalling _ _, rest, RunEvent.follow_setOut_ready.2 rfl, ?_, rfl, rfl⟩
    rw [logged_concluded hlike]
    exact laps_recalling.2 ⟨n, hlaps, rfl⟩

/-- A run of at most `a` steps and, unless it fails, another one of at most `b` steps. -/
def Solver.runTwice {I : Type} (method : Method W I S) (cast : Cast W S) (stop : StopId)
    (a b fuel : Nat) : Action W I S (Option S) := do
  let _ ← run method cast fuel stop (some (.int a))
  run method cast fuel stop (some (.int b))

theorem Solver.steady_run (stop : StopId) (limit : Option Value) :
    Action.Steady fun fuel => run (LocalSearch.method (W := W) (S := S)) cast fuel stop limit :=
  fun _ _ h => within_run h stop limit

theorem Solver.steady_runTwice :
    Action.Steady (runTwice (LocalSearch.method (W := W) (S := S)) cast stop a b) :=
  .bind (steady_run stop _) fun _ => steady_run stop _

/-- Two runs end where the first one fails, or else where the second one ends. -/
theorem Solver.ends_runTwice {result : Except Failure (Option S)} :
    Action.Ends (runTwice LocalSearch.method cast stop a b) m result m' ↔
      (∃ cause, result = .error cause ∧ Action.Ends
        (fun fuel => run LocalSearch.method cast fuel stop (some (.int a))) m (.error cause) m') ∨
      ∃ solution m₁, Action.Ends
          (fun fuel => run LocalSearch.method cast fuel stop (some (.int a))) m (.ok solution) m₁ ∧
        Action.Ends
          (fun fuel => run LocalSearch.method cast fuel stop (some (.int b))) m₁ result m' :=
  Action.ends_bind (steady_run stop _) fun _ => steady_run stop _

/-- Where the run in one ends, the two runs end alike. -/
theorem Solver.ends_twice_of_run {answer : Sight S → W → Except Failure Bool}
    (hstop : (cast.stop stop).Reads LocalSearch.method answer)
    {result : Except Failure (Option S)}
    (h : Action.Ends (fun fuel =>
      run LocalSearch.method cast fuel stop (some (.int ((a + b : Nat) : Int)))) m result m₁) :
    ∃ m₂, Action.Ends (runTwice LocalSearch.method cast stop a b) m result m₂ ∧
      m.CutAlike result m₁ m₂ := by
  rcases (ends_run_iff (a + b)).1 h with
    ⟨hphase, cause, rfl, hstart⟩ | ⟨ms, mL, made, hout, hlaps, rfl, rfl⟩
  · refine ⟨m₁, ends_runTwice.2 (.inl ⟨cause, rfl, ?_⟩), .before⟩
    exact (ends_run_iff a).2 (.inl ⟨hphase, cause, rfl, hstart⟩)
  obtain ⟨made₁, mm, hfirst⟩ := hlaps.exists_lower (Nat.zero_le a)
  have hrun := (ends_run_iff a).2
    (.inr ⟨ms, mm, made₁, hout, hfirst, rfl, rfl⟩)
  cases made₁ with
  | error cause =>
    obtain ⟨rfl, rfl⟩ := hlaps.unique hfirst.failed_higher
    exact ⟨mL, ends_runTwice.2 (.inl ⟨cause, rfl, hrun⟩), .before⟩
  | ok k =>
    obtain ⟨m₀, stopped, hasked, hiff⟩ := hfirst.cut (b := b) (Nat.zero_le a)
    obtain ⟨rest, rfl, hrest⟩ := (hiff made mL).1 hlaps
    obtain ⟨glances, hglances, rfl⟩ := hasked.reads hstop
    -- The second run comes to the cut with a longer past, which its laps do not look at.
    obtain ⟨n, hforgot, rfl⟩ := laps_forgetting.1 hrest
    have hsame : (n.recalling m₀.transcript m₀.journal).returned (rest.map (k + ·))
        = n.returned rest := by cases rest <;> rfl
    rw [hsame]
    have hlike := (readyLike_of_setOut hout).laps hfirst
    exact ⟨_, ends_runTwice.2 (.inr ⟨_, _, hrun,
      (ends_resumed hlike k).2 ⟨n, rest, hforgot, rfl, rfl⟩⟩), .after hglances⟩

/-- Where two runs end, the run in one ends. -/
theorem Solver.ends_run_of_twice {answer : Sight S → W → Except Failure Bool}
    (hstop : (cast.stop stop).Reads LocalSearch.method answer)
    {result : Except Failure (Option S)}
    (h : Action.Ends (runTwice LocalSearch.method cast stop a b) m result m₂) :
    ∃ result₁ m₁, Action.Ends (fun fuel =>
      run LocalSearch.method cast fuel stop (some (.int ((a + b : Nat) : Int)))) m result₁ m₁ := by
  have hrun : ∀ {ms mL made}, RunEvent.Follow LocalSearch.method cast stop
      (RunEvent.setOut m.solver.phase) m ms → Laps LocalSearch.method cast stop
      (some ((a + b : Nat) : Int)) 0 ms made mL → ∃ result₁ m₁, Action.Ends (fun fuel =>
        run LocalSearch.method cast fuel stop (some (.int ((a + b : Nat) : Int)))) m result₁ m₁ :=
    fun hout hlaps => ⟨_, _, (ends_run_iff (a + b)).2
      (.inr ⟨_, _, _, hout, hlaps, rfl, rfl⟩)⟩
  rcases ends_runTwice.1 h with ⟨cause, rfl, hfailed⟩ | ⟨solution, mm, hfirst, hsecond⟩
  · rcases (ends_run_iff a).1 hfailed with
      ⟨hphase, cause', hcause, hstart⟩ | ⟨ms, mL, made, hout, hlaps, hmade, -⟩
    · exact ⟨_, _, (ends_run_iff (a + b)).2
        (.inl ⟨hphase, cause', rfl, hstart⟩)⟩
    · cases made with
      | error cause' => exact hrun hout hlaps.failed_higher
      | ok k => cases hmade
  · rcases (ends_run_iff a).1 hfirst with
      ⟨-, cause, hsolution, -⟩ | ⟨ms, mL, made, hout, hlaps, hmade, rfl⟩
    · cases hsolution
    cases made with
    | error cause => cases hmade
    | ok k =>
      obtain ⟨m₀, stopped, hasked, hiff⟩ := hlaps.cut (b := b) (Nat.zero_le a)
      obtain ⟨glances, -, rfl⟩ := hasked.reads hstop
      obtain ⟨n, rest, hrest, -, -⟩ :=
        (ends_resumed ((readyLike_of_setOut hout).laps hlaps) k).1 hsecond
      exact hrun hout ((hiff _ _).2 ⟨rest, rfl, laps_forgetting.2 ⟨n, hrest, rfl⟩⟩)

end

/-- A run may be cut anywhere, if its stop condition only `Reads`. The run of as many steps as two
    runs make together ends if and only if the two runs do, one after the other unless the first one
    fails. It ends with the same result and on the same machine, but for what was written at the cut
    (`Machine.CutAlike`). -/
theorem run_can_be_cut (cast : Cast W S) {stop : StopId}
    {answer : Sight S → W → Except Failure Bool}
    (hstop : (cast.stop stop).Reads LocalSearch.method answer) (a b : Nat)
    (m : Machine W (LocalSearch W S) S) (result : Except Failure (Option S)) :
    (∀ m₁, Action.Ends (fun fuel => Solver.run LocalSearch.method cast fuel stop
        (some (.int ((a + b : Nat) : Int)))) m result m₁ →
      ∃ m₂, Action.Ends (Solver.runTwice LocalSearch.method cast stop a b) m result m₂ ∧
        m₁.SameBut m₂ ∧ m.CutAlike result m₁ m₂) ∧
    ∀ m₂, Action.Ends (Solver.runTwice LocalSearch.method cast stop a b) m result m₂ →
      ∃ m₁, Action.Ends (fun fuel => Solver.run LocalSearch.method cast fuel stop
          (some (.int ((a + b : Nat) : Int)))) m result m₁ ∧
        m₁.SameBut m₂ ∧ m.CutAlike result m₁ m₂ := by
  constructor
  · intro m₁ h
    obtain ⟨m₂, htwice, halike⟩ := Solver.ends_twice_of_run hstop h
    exact ⟨m₂, htwice, halike.same, halike⟩
  · intro m₂ h
    obtain ⟨result₁, m₁, hrun⟩ := Solver.ends_run_of_twice hstop h
    obtain ⟨m₃, htwice, halike⟩ := Solver.ends_twice_of_run hstop hrun
    -- The two runs end in one way only.
    obtain ⟨rfl, rfl⟩ := Action.Ends.unique Solver.steady_runTwice htwice h
    exact ⟨m₁, hrun, halike.same, halike⟩

/-- A run that ends by itself after three steps, the first of which an observer made, cut after the
    first one of its own. -/
theorem run_can_be_cut_eager :
    let answer := fun (seen : View Bare) (_ : List Bare) =>
      (.ok (decide (3 ≤ seen.steps)) : Except Failure Bool)
    let cast := { Cast.eager (S := Bare) with
      stop := fun _ => .look fun seen world => Program.orFail (answer seen world) }
    let m := Machine.listed ([5, 3, 4, 2, 1].map Bare.costing) #[0, 1] Level.info
    let whole :=
      (Solver.run LocalSearch.method cast 9 0 (some (.int ((1 + 3 : Nat) : Int)))).runOn m
    let twice := (Solver.runTwice LocalSearch.method cast 0 1 3 9).runOn m
    whole.1 = .ok (some (.costing 2)) ∧ twice.1 = .ok (some (.costing 2)) ∧
      twice.2.past.length = whole.2.past.length + 2 ∧
      whole.2.journal.size = 2 ∧ twice.2.journal.size = 4 ∧
      whole.2.SameBut twice.2 ∧ m.CutAlike (.ok (some (.costing 2))) whole.2 twice.2 := by
  intro answer cast m whole twice
  have hwhole : whole.1 = .ok (some (.costing 2)) := by decide +kernel
  have htwice : twice.1 = .ok (some (.costing 2)) := by decide +kernel
  have hreads : (cast.stop 0).Reads LocalSearch.method fun seen => answer seen.toView :=
    Program.reads_look _ answer
  obtain ⟨m₂, hends, hsame, halike⟩ :=
    (run_can_be_cut cast hreads 1 3 m (.ok (some (.costing 2)))).1 whole.2 (.of_run hwhole)
  have hended : Action.Ends (Solver.runTwice LocalSearch.method cast 0 1 3) m
      (.ok (some (.costing 2))) twice.2 := .of_run htwice
  have hm₂ : m₂ = twice.2 := (Action.Ends.unique Solver.steady_runTwice hends hended).2
  rw [hm₂] at hsame halike
  exact ⟨hwhole, htwice, by decide +kernel, by decide +kernel, by decide +kernel, hsame, halike⟩

end HillClimb
