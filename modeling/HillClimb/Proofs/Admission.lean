import HillClimb.Solver.LocalSearch
import Mathlib.Tactic.NormNum

set_option autoImplicit false

/-! # The admission of seeds

An offer is a seed if it is not a truth value and answers, when it is asked for its index, with an
integer of 64 bits. What it does when it is asked (`Offer.reply`) settles all else: which integer is
the seed, whether the offer is refused by its own sort or by the integer that it stands for, and
which failures of its own come out (`Offer.Judged`).

* `Represents.make`: however an integer of 64 bits is represented, it is taken.
* `Failure.message_seedRange_of_lt`: the wording of a refusal names an integer of at most 4300
  digits. A longer one is not named (`seed_refused_unnamed`).
* `Solver.new_of_taken` and `Solver.new_eq_error_iff`: a solver that is made with an offer fails as
  the offer is refused, and otherwise is the one that is made with the plain integer.

The result is `seed_admission_is_exact`. -/

namespace HillClimb

/-! ## Asking for an index -/

/-- What an offer does when its `__index__` is called. -/
inductive Reply where
  /-- It is of a sort that has no index. -/
  | silent
  /-- It answers, be it with an integer or not. -/
  | answers (answer : Offer)
  /-- It fails. -/
  | fails (cause : Failure)

namespace Offer

/-- The failure of an array that is asked for its index and is not a single integer. -/
def manifold : Failure :=
  .raised .kind "only integer scalar arrays can be converted to a scalar index"

/-- The reply of an offer whose `__index__` is called. Of scalars only the integers have one; an
    array can always be asked. -/
def reply : Offer → Reply
  | .value (.int n) => .answers (.value (.int n))
  | .value (.bool b) => .answers (.value (.int b.toInt))
  | .scalar (.integer _) (.int n) => .answers (.value (.int n))
  | .cell (.scalar (.integer _) (.int n)) => .answers (.value (.int n))
  | .cell _ => .fails manifold
  | .grid _ => .fails manifold
  | .indexed answer => .answers answer
  | .failing cause => .fails cause
  | _ => .silent

/-- The offer is a truth value as it stands. A scalar never is. -/
def IsTruth (o : Offer) : Prop := ∃ b, o = .value (.bool b)

/-- The offer is an integer as it stands, truth values counting as zero and one. -/
inductive IsInteger : Offer → Int → Prop
  | int (n : Int) : IsInteger (.value (.int n)) n
  | bool (b : Bool) : IsInteger (.value (.bool b)) b.toInt

/-- Asked for its index, the offer answers with an integer, by its `reply`. -/
def Yields (o : Offer) (n : Int) : Prop := ∃ answer, o.reply = .answers answer ∧ answer.IsInteger n

/-- Asked for its index, the offer fails for a reason of its own, which is not one of kind
    (`Failure.isKindFault`). -/
def FailsBy (o : Offer) (cause : Failure) : Prop :=
  o.reply = .fails cause ∧ cause.isKindFault = false

/-- No integer is got from the offer: it cannot be asked for its index, or it fails for a reason of
    kind when it is, or it answers with something that is no integer. -/
inductive Indexless (o : Offer) : Prop
  | silent (h : o.reply = .silent)
  | fails (cause : Failure) (h : o.reply = .fails cause) (hkind : cause.isKindFault = true)
  | answers (answer : Offer) (h : o.reply = .answers answer) (hnone : ∀ n, ¬ answer.IsInteger n)

theorem answered?_eq_some_iff {o : Offer} {n : Int} : o.answered? = some n ↔ o.IsInteger n := by
  constructor
  · intro h
    cases o with
    | value v =>
      cases v with
      | int => cases h; exact .int n
      | bool b => cases h; exact .bool b
      | _ => cases h
    | _ => cases h
  · rintro (_ | _) <;> rfl

/-- The integer that comes of a reply. -/
def indexOf : Reply → Except Refusal Int
  | .silent => .error .kind
  | .answers answer => answer.answered?.elim (.error .kind) .ok
  | .fails cause => .error (if cause.isKindFault then .kind else .failure cause)

/-- The `Offer.index` is what comes of the `reply`. -/
theorem index_eq (o : Offer) : o.index = indexOf o.reply := by
  -- Of scalars and arrays the reply depends on what is in them, of all else on its sort alone.
  cases o with
  | value v => cases v <;> rfl
  | scalar type v => cases type <;> cases v <;> rfl
  | cell content =>
    cases content with
    | scalar type v => cases type <;> cases v <;> rfl
    | _ => rfl
  | _ => rfl

theorem index_of_yields {o : Offer} {n : Int} (h : o.Yields n) : o.index = .ok n := by
  obtain ⟨answer, hreply, hint⟩ := h
  rw [index_eq, hreply, indexOf, answered?_eq_some_iff.2 hint]
  rfl

theorem index_of_indexless {o : Offer} (h : o.Indexless) : o.index = .error .kind := by
  rw [index_eq]
  cases h with
  | silent hreply => rw [hreply]; rfl
  | fails cause hreply hkind => rw [hreply, indexOf, if_pos hkind]
  | answers answer hreply hnone =>
    have hanswer : answer.answered? = none :=
      Option.eq_none_iff_forall_ne_some.2 fun n hn => hnone n (answered?_eq_some_iff.1 hn)
    rw [hreply, indexOf, hanswer]
    rfl

theorem index_of_failsBy {o : Offer} {cause : Failure} (h : o.FailsBy cause) :
    o.index = .error (.failure cause) := by
  obtain ⟨hreply, hkind⟩ := h
  rw [index_eq, hreply, indexOf, if_neg (by rw [hkind]; exact Bool.false_ne_true)]

/-- There is nothing else that an offer can do: it `Yields` an integer, is `Indexless`, or `FailsBy`
    a cause. -/
theorem yields_or_indexless_or_failsBy (o : Offer) :
    (∃ n, o.Yields n) ∨ o.Indexless ∨ ∃ cause, o.FailsBy cause := by
  cases hreply : o.reply with
  | silent => exact .inr (.inl (.silent hreply))
  | answers answer =>
    cases hanswer : answer.answered? with
    | some n => exact .inl ⟨n, answer, hreply, answered?_eq_some_iff.1 hanswer⟩
    | none =>
      refine .inr (.inl (.answers answer hreply fun n hn => ?_))
      rw [answered?_eq_some_iff.2 hn] at hanswer
      cases hanswer
  | fails cause =>
    cases hkind : cause.isKindFault with
    | true => exact .inr (.inl (.fails cause hreply hkind))
    | false => exact .inr (.inr ⟨cause, hreply, hkind⟩)

end Offer

/-! ## Taking or refusing -/

/-- The integer has 64 bits, one of them for its sign: it is from `SEED_MIN` to `SEED_MAX`. -/
def Seed.Fits (n : Int) : Prop := -2 ^ 63 ≤ n ∧ n ≤ 2 ^ 63 - 1

theorem Seed.fits_iff (n : Int) : Seed.Fits n ↔ Seed.least ≤ n ∧ n ≤ Seed.greatest := by
  norm_num [Seed.Fits, Seed.least, Seed.greatest, Seed.bits, pow2]

theorem Seed.Fits.holds_machine {n : Int} (h : Seed.Fits n) : Width.machine.holds n = true := by
  rw [Width.holds, Bool.and_eq_true, decide_eq_true_eq, decide_eq_true_eq]
  norm_num [Seed.Fits, Width.least, Width.bound, Width.machine, pow2] at h ⊢
  omega

namespace Offer

variable {o : Offer} {n : Int} {cause : Failure} {r : Except Failure Int}

/-- The ways to be judged: an offer is taken for the integer that it answers with, refused by its
    sort or by the integer, or it fails. -/
inductive Judged (o : Offer) : Except Failure Int → Prop
  | taken {n : Int} (htruth : ¬ o.IsTruth) (hyields : o.Yields n) (hfits : Seed.Fits n) :
      Judged o (.ok n)
  | truth (h : o.IsTruth) : Judged o (.error (.seedKind o.sort))
  | indexless (h : o.Indexless) : Judged o (.error (.seedKind o.sort))
  | beyond {n : Int} (hyields : o.Yields n) (hfits : ¬ Seed.Fits n) :
      Judged o (.error (.seedRange n))
  | failed {cause : Failure} (h : o.FailsBy cause) : Judged o (.error cause)

/-- A truth value is not refused for its size. -/
theorem IsTruth.fits (h : o.IsTruth) (hyields : o.Yields n) : Seed.Fits n := by
  obtain ⟨b, rfl⟩ := h
  obtain ⟨answer, hreply, hint⟩ := hyields
  cases hreply
  cases hint
  cases b <;> norm_num [Seed.Fits]

theorem FailsBy.not_isTruth (h : o.FailsBy cause) : ¬ o.IsTruth := by
  rintro ⟨b, rfl⟩
  cases h.1

theorem validate_of_isTruth (h : o.IsTruth) : o.validate = .error (.seedKind o.sort) := by
  obtain ⟨b, rfl⟩ := h
  rfl

/-- An offer that is no truth value is judged by its index alone. -/
theorem validate_of_not_isTruth (h : ¬ o.IsTruth) :
    o.validate = match o.index with
      | .error .kind => .error (.seedKind o.sort)
      | .error (.failure cause) => .error cause
      | .ok n => if Seed.least ≤ n ∧ n ≤ Seed.greatest then .ok n else .error (.seedRange n) := by
  cases o with
  | value v =>
    cases v with
    | bool b => exact absurd ⟨b, rfl⟩ h
    | _ => rfl
  | _ => rfl

/-- What an offer is `Judged` to be is what comes of its validation. -/
theorem Judged.validate (h : o.Judged r) : o.validate = r := by
  cases h with
  | taken htruth hyields hfits =>
    rw [validate_of_not_isTruth htruth, index_of_yields hyields]
    exact if_pos ((Seed.fits_iff _).1 hfits)
  | truth h => exact validate_of_isTruth h
  | indexless h =>
    by_cases htruth : o.IsTruth
    · exact validate_of_isTruth htruth
    · rw [validate_of_not_isTruth htruth, index_of_indexless h]
  | beyond hyields hfits =>
    have htruth : ¬ o.IsTruth := fun htruth => hfits (htruth.fits hyields)
    rw [validate_of_not_isTruth htruth, index_of_yields hyields]
    exact if_neg (mt (Seed.fits_iff _).2 hfits)
  | failed h => rw [validate_of_not_isTruth h.not_isTruth, index_of_failsBy h]

/-- Every offer is `Judged`. -/
theorem exists_judged (o : Offer) : ∃ r, o.Judged r := by
  by_cases htruth : o.IsTruth
  · exact ⟨_, .truth htruth⟩
  rcases o.yields_or_indexless_or_failsBy with ⟨n, hyields⟩ | hless | ⟨cause, hfails⟩
  · by_cases hfits : Seed.Fits n
    · exact ⟨_, .taken htruth hyields hfits⟩
    · exact ⟨_, .beyond hyields hfits⟩
  · exact ⟨_, .indexless hless⟩
  · exact ⟨_, .failed hfails⟩

theorem validate_eq_iff : o.validate = r ↔ o.Judged r := by
  constructor
  · rintro rfl
    obtain ⟨r, h⟩ := o.exists_judged
    exact h.validate ▸ h
  · exact Judged.validate

theorem validate_eq_ok_iff : o.validate = .ok n ↔ ¬ o.IsTruth ∧ o.Yields n ∧ Seed.Fits n := by
  rw [validate_eq_iff]
  constructor
  · rintro (⟨htruth, hyields, hfits⟩ | _)
    exact ⟨htruth, hyields, hfits⟩
  · rintro ⟨htruth, hyields, hfits⟩
    exact .taken htruth hyields hfits

theorem validate_eq_seedKind_iff : o.validate = .error (.seedKind o.sort) ↔
    o.IsTruth ∨ o.Indexless ∨ o.FailsBy (.seedKind o.sort) := by
  rw [validate_eq_iff]
  constructor
  · intro h
    cases h with
    | truth h => exact .inl h
    | indexless h => exact .inr (.inl h)
    | failed h => exact .inr (.inr h)
  · rintro (h | h | h)
    · exact .truth h
    · exact .indexless h
    · exact .failed h

theorem validate_eq_seedRange_iff : o.validate = .error (.seedRange n) ↔
    (o.Yields n ∧ ¬ Seed.Fits n) ∨ o.FailsBy (.seedRange n) := by
  rw [validate_eq_iff]
  constructor
  · intro h
    cases h with
    | beyond hyields hfits => exact .inl ⟨hyields, hfits⟩
    | failed h => exact .inr h
  · rintro (⟨hyields, hfits⟩ | h)
    · exact .beyond hyields hfits
    · exact .failed h

/-- There are three kinds of failure. -/
theorem cause_of_validate_eq_error (h : o.validate = .error cause) :
    cause = .seedKind o.sort ∨ (∃ n, cause = .seedRange n) ∨ o.FailsBy cause := by
  cases validate_eq_iff.1 h with
  | truth h => exact .inl rfl
  | indexless h => exact .inl rfl
  | beyond hyields hfits => exact .inr (.inl ⟨_, rfl⟩)
  | failed h => exact .inr (.inr h)

theorem fits_of_validate_eq_ok (h : o.validate = .ok n) : Seed.Fits n :=
  (validate_eq_ok_iff.1 h).2.2

end Offer

/-! ## The wording of a refusal -/

theorem pow10_eq (n : Nat) : pow10 n = 10 ^ n := rfl

theorem Numeral.text?_of_lt {n : Int} (h : n.natAbs < 10 ^ 4300) :
    Numeral.text? n = some (toString n) := by
  rw [Numeral.text?, pow10_eq, Numeral.mostDigits, if_pos h]

theorem Numeral.text?_of_le {n : Int} (h : 10 ^ 4300 ≤ n.natAbs) : Numeral.text? n = none := by
  rw [Numeral.text?, pow10_eq, Numeral.mostDigits, if_neg (Nat.not_lt.2 h)]

namespace Failure

theorem message_seedRange (n : Int) :
    (seedRange n).message = ((Numeral.text? n).map fun text =>
      "Seed " ++ text ++ " does not fit in a signed 64-bit integer").getD unwritten := rfl

/-- A refusal names an integer of at most 4300 digits, which is `Numeral.mostDigits`. -/
theorem message_seedRange_of_lt {n : Int} (h : n.natAbs < 10 ^ 4300) :
    (seedRange n).message
      = "Seed " ++ toString n ++ " does not fit in a signed 64-bit integer" := by
  rw [message_seedRange, Numeral.text?_of_lt h, Option.map_some, Option.getD_some]

/-- A longer integer cannot be written, and the refusal tells of nothing else. -/
theorem message_seedRange_of_le {n : Int} (h : 10 ^ 4300 ≤ n.natAbs) :
    (seedRange n).message
      = "Exceeds the limit (4300 digits) for integer string conversion; use " ++
        "sys.set_int_max_str_digits() to increase the limit" := by
  rw [message_seedRange, Numeral.text?_of_le h, Option.map_none, Option.getD_none]
  decide +kernel

end Failure

/-! ## Writing an integer down -/

/-- The argument describes an integer as it is, or as a scalar of a type that has it or an array
    that is made of such a thing. The offer that is made of it `Carries` the integer. -/
inductive SeedArgument.Writes (n : Int) : SeedArgument → Prop
  | plain : Writes n (.value (.int n))
  | scalar {source : SeedArgument} (w : Width) (hpos : 0 < w.bits) (hholds : w.holds n = true)
      (h : Writes n source) : Writes n (.scalar (.integer w) source)
  | array {source : SeedArgument} (h : Writes n source) : Writes n (.array source)

/-- The argument describes an integer, or an object that answers with it. -/
inductive SeedArgument.Represents (n : Int) : SeedArgument → Prop
  | written {argument : SeedArgument} (h : argument.Writes n) : Represents n argument
  | answered {v : Value} (h : v.integer? = some n) : Represents n (.indexed (.value v))

namespace Offer

variable {o : Offer} {n : Int}

/-- The offer is an integer, a scalar that is one, or an array of such a scalar. -/
inductive Carries (n : Int) : Offer → Prop
  | plain : Carries n (.value (.int n))
  | scalar (w : Width) : Carries n (.scalar (.integer w) (.int n))
  | cell (w : Width) : Carries n (.cell (.scalar (.integer w) (.int n)))

theorem Carries.validate (h : o.Carries n) (hfits : Seed.Fits n) : o.validate = .ok n := by
  refine validate_eq_ok_iff.2 ⟨?_, ?_, hfits⟩
  · rintro ⟨b, rfl⟩
    cases h
  · cases h with
    | plain => exact ⟨_, rfl, .int n⟩
    | scalar w => exact ⟨_, rfl, .int n⟩
    | cell w => exact ⟨_, rfl, .int n⟩

theorem Carries.dimensions (h : o.Carries n) : o.dimensions = .ok [] := by
  cases h <;> rfl

/-- An array that is made of an integer has a scalar in it, since the integer is not too large for
    one. -/
theorem Carries.toArray (h : o.Carries n) (hfits : Seed.Fits n) :
    ∃ o', o.toArray = .ok o' ∧ o'.Carries n := by
  refine ⟨.cell o.held, by rw [Offer.toArray, h.dimensions]; rfl, ?_⟩
  cases h with
  | plain =>
    rw [held, if_pos hfits.holds_machine]
    exact .cell _
  | scalar w => exact .cell w
  | cell w => exact .cell w

theorem Carries.integerOf (h : o.Carries n) (hfits : Seed.Fits n) {w : Width} (hpos : 0 < w.bits)
    (hholds : w.holds n = true) : o.integerOf w = .ok n := by
  have hcast : ScalarType.castInteger w (.int n) = .ok n :=
    congrArg Except.ok (w.wrap_of_holds hpos hholds)
  cases h with
  | plain =>
    have hword : ScalarType.fitsWord w n = true := by
      rw [ScalarType.fitsWord, hfits.holds_machine, Bool.true_or]
    show ScalarType.fitted w n = .ok n
    simp [ScalarType.fitted, hword, hholds, pure, Except.pure]
  | scalar w' => exact hcast
  | cell w' => exact hcast

theorem Carries.toScalar (h : o.Carries n) (hfits : Seed.Fits n) {w : Width} (hpos : 0 < w.bits)
    (hholds : w.holds n = true) :
    o.toScalar (.integer w) = .ok (.scalar (.integer w) (.int n)) := by
  rw [Offer.toScalar, if_neg (by simp), h.dimensions]
  show o.single (.integer w) = _
  rw [single, h.integerOf hfits hpos hholds]
  rfl

end Offer

namespace SeedArgument

variable {argument : SeedArgument} {n : Int}

/-- However deep scalars and arrays are made of one another, the integer is not lost: the induction
    is on `Writes`. -/
theorem Writes.make (h : argument.Writes n) (hfits : Seed.Fits n) :
    ∃ o, argument.make = .ok o ∧ o.Carries n := by
  -- By how the things are nested: what is inside is made first, and is an integer as well.
  induction h with
  | plain => exact ⟨_, by rw [SeedArgument.make], .plain⟩
  | scalar w hpos hholds _ ih =>
    obtain ⟨o, hmake, hcarries⟩ := ih
    refine ⟨_, ?_, .scalar w⟩
    rw [SeedArgument.make, hmake]
    exact hcarries.toScalar hfits hpos hholds
  | array _ ih =>
    obtain ⟨o, hmake, hcarries⟩ := ih
    obtain ⟨o', harray, hcarries'⟩ := hcarries.toArray hfits
    refine ⟨o', ?_, hcarries'⟩
    rw [SeedArgument.make, hmake]
    exact harray

/-- However an integer in range is represented, the offer is made, and is taken for it. -/
theorem Represents.make (h : argument.Represents n) (hfits : Seed.Fits n) :
    ∃ o, argument.make = .ok o ∧ o.validate = .ok n := by
  cases h with
  | written h =>
    obtain ⟨o, hmake, hcarries⟩ := h.make hfits
    exact ⟨o, hmake, hcarries.validate hfits⟩
  | @answered v h =>
    refine ⟨.indexed (.value v), by simp only [SeedArgument.make], ?_⟩
    refine Offer.validate_eq_ok_iff.2 ⟨?_, ?_, hfits⟩
    · rintro ⟨b, hb⟩
      cases hb
    · exact ⟨.value v, rfl, Offer.answered?_eq_some_iff.1 h⟩

end SeedArgument

/-! ## Solvers that are made with an offer -/

namespace Offer

variable {o : Offer} {n : Int}

/-- The offer as an argument that may be left out. Nothing counts as left out. -/
def given? : Offer → Option Offer
  | .value .none => none
  | o => some o

theorem given?_eq_some (h : o ≠ .value .none) : o.given? = some o := by
  cases o with
  | value v =>
    cases v with
    | none => exact absurd rfl h
    | _ => rfl
  | _ => rfl

theorem given?_of_taken (h : o.validate = .ok n) : o.given? = some o := by
  refine given?_eq_some ?_
  rintro rfl
  cases h

end Offer

namespace Solver

variable {I : Type} {name : String} {o : Offer} {clock : Value} {generator : Option GeneratorId}
  {observers : Array ObserverId} {inner : I} {generators : Generators}

/-- The solver has an integer for its seed. It draws from the generator that it was given, and else
    from a new one, behind all others, that is made from the integer. -/
structure Seeded (solver : Solver I) (n : Int) (generator : Option GeneratorId)
    (before after : Generators) : Prop where
  seed : solver.seed = n
  given : ∀ id, generator = some id → solver.generator = id ∧ after = before
  own : generator = none →
    solver.generator = before.size ∧ after = before.push (Generator.ofSeed n)

/-- The solver that is made with an integer, and the generators that there are then. -/
def ofSeed (name : String) (n : Int) (generator : Option GeneratorId) (observers : Array ObserverId)
    (inner : I) (generators : Generators) : Solver I × Generators :=
  match generator with
  | some id => (⟨name, n, id, observers, 0, .uninitialized, inner⟩, generators)
  | none => (⟨name, n, generators.size, observers, 0, .uninitialized, inner⟩,
      generators.push (Generator.ofSeed n))

theorem seeded_ofSeed (name : String) (n : Int) (generator : Option GeneratorId)
    (observers : Array ObserverId) (inner : I) (generators : Generators) :
    (ofSeed name n generator observers inner generators).1.Seeded n generator generators
      (ofSeed name n generator observers inner generators).2 := by
  cases generator with
  | none => exact ⟨rfl, nofun, fun _ => ⟨rfl, rfl⟩⟩
  | some id => exact ⟨rfl, fun _ h => ⟨Option.some.inj h, rfl⟩, nofun⟩

/-- Of an offer that is taken, only the integer is left: `Solver.new` makes the same as with the
    integer. -/
theorem new_of_taken {n : Int} (h : o.validate = .ok n) :
    Solver.new name o.given? clock generator observers inner generators =
      .ok (ofSeed name n generator observers inner generators) := by
  rw [Offer.given?_of_taken h]
  cases generator <;> simp only [Solver.new, h, bind, Except.bind, pure, Except.pure, ofSeed]

/-- No solver is made with an offer that is refused, and that is all that can go wrong. -/
theorem new_eq_error_iff (hgiven : o ≠ .value .none) {cause : Failure} :
    Solver.new name o.given? clock generator observers inner generators = .error cause ↔
      o.validate = .error cause := by
  cases hvalidate : o.validate with
  | error own =>
    have hrefused : Solver.new name o.given? clock generator observers inner generators
        = .error own := by
      simp only [Offer.given?_eq_some hgiven, Solver.new, hvalidate, bind, Except.bind]
    rw [hrefused, Except.error.injEq, Except.error.injEq]
  | ok n => simp only [new_of_taken hvalidate, reduceCtorEq]

end Solver

/-! ## Seeds as a whole -/

/-- An offer is a seed exactly if it is no truth value and `Yields` an integer that `Fits` 64 bits.
    It is refused by its own sort if it is a truth value or `Indexless`, and by the integer if that
    does not fit; the wording of the refusal names an integer of at most 4300 digits. A failure of
    its own comes out as it is, even if it is one that a refusal would be. A solver cannot be made
    with what is refused. Of what is taken it keeps the integer alone, so it is the same solver
    however the integer was represented (`SeedArgument.Represents`). -/
theorem seed_admission_is_exact {I : Type} (o : Offer) (hgiven : o ≠ .value .none) (name : String)
    (clock : Value) (generator : Option GeneratorId) (observers : Array ObserverId) (inner : I)
    (generators : Generators) :
    let made := Solver.new name o.given? clock generator observers inner generators
    (∀ n, o.validate = .ok n ↔ ¬ o.IsTruth ∧ o.Yields n ∧ Seed.Fits n) ∧
    ((o.validate = .error (.seedKind o.sort) ↔
        o.IsTruth ∨ o.Indexless ∨ o.FailsBy (.seedKind o.sort)) ∧
      (Failure.seedKind o.sort).message = "Seed must be an integer, got " ++ o.sort) ∧
    (∀ n, (o.validate = .error (.seedRange n) ↔
        (o.Yields n ∧ ¬ Seed.Fits n) ∨ o.FailsBy (.seedRange n)) ∧
      (n.natAbs < 10 ^ 4300 → (Failure.seedRange n).message
        = "Seed " ++ toString n ++ " does not fit in a signed 64-bit integer") ∧
      (10 ^ 4300 ≤ n.natAbs → (Failure.seedRange n).message
        = "Exceeds the limit (4300 digits) for integer string conversion; use " ++
          "sys.set_int_max_str_digits() to increase the limit")) ∧
    (∀ cause, o.FailsBy cause → o.validate = .error cause) ∧
    (∀ cause, o.validate = .error cause →
      cause = .seedKind o.sort ∨ (∃ n, cause = .seedRange n) ∨ o.FailsBy cause) ∧
    (∀ cause, made = .error cause ↔ o.validate = .error cause) ∧
    ∀ n, o.validate = .ok n →
      (∃ solver generators', made = .ok (solver, generators') ∧
        solver.Seeded n generator generators generators') ∧
      (Offer.value (.int n)).validate = .ok n ∧
      (∀ argument : SeedArgument, argument.Represents n →
        ∃ o', argument.make = .ok o' ∧ o'.validate = .ok n) ∧
      ∀ (o' : Offer) (clock' : Value), o'.validate = .ok n →
        Solver.new name o'.given? clock' generator observers inner generators = made := by
  intro made
  refine ⟨fun n => Offer.validate_eq_ok_iff, ⟨Offer.validate_eq_seedKind_iff, rfl⟩,
    fun n => ⟨Offer.validate_eq_seedRange_iff, Failure.message_seedRange_of_lt,
      Failure.message_seedRange_of_le⟩,
    fun cause h => Offer.Judged.validate (.failed h),
    fun cause h => Offer.cause_of_validate_eq_error h,
    fun cause => Solver.new_eq_error_iff hgiven, fun n hn => ?_⟩
  have hfits : Seed.Fits n := Offer.fits_of_validate_eq_ok hn
  have hmade : made = .ok (Solver.ofSeed name n generator observers inner generators) :=
    Solver.new_of_taken hn
  refine ⟨⟨_, _, hmade, Solver.seeded_ofSeed ..⟩, Offer.Carries.plain.validate hfits,
    fun argument h => h.make hfits, fun o' clock' ho' => ?_⟩
  rw [hmade, Solver.new_of_taken ho']

theorem not_fits_of_le {n : Int} (h : 10 ^ 4300 ≤ n) : ¬ Seed.Fits n := by
  rintro ⟨-, hle⟩
  have hlarge : (10 : Int) ^ 19 ≤ 10 ^ 4300 := pow_le_pow_right₀ (by norm_num) (by norm_num)
  exact absurd ((hlarge.trans h).trans hle) (by norm_num)

/-- The text of the limit begins with another letter than a text that names the integer. -/
theorem Failure.message_seedRange_ne {n : Int} (h : 10 ^ 4300 ≤ n) :
    (seedRange n).message
      ≠ "Seed " ++ toString n ++ " does not fit in a signed 64-bit integer" := by
  have habs : 10 ^ 4300 ≤ n.natAbs := by exact_mod_cast h.trans Int.le_natAbs
  rw [message_seedRange_of_le habs]
  intro heq
  have hfirst := congrArg (fun text : String => text.toList.head?) heq
  simp [String.toList_append] at hfirst

/-- The integer `10 ^ 4300` does not fit, but the refusal does not name it. And an object that
    answers with an integer scalar, which is a seed itself, is refused by its sort. -/
theorem seed_refused_unnamed :
    let huge : Int := 10 ^ 4300
    let answer := Offer.scalar (.integer Width.machine) (.int 5)
    ((Offer.value (.int huge)).Yields huge ∧ ¬ Seed.Fits huge ∧
      (Offer.value (.int huge)).validate = .error (.seedRange huge) ∧
      (Failure.seedRange huge).message
        ≠ "Seed " ++ toString huge ++ " does not fit in a signed 64-bit integer") ∧
    (answer.validate = .ok 5 ∧ (Offer.indexed answer).reply = .answers answer ∧
      (Offer.indexed answer).validate = .error (.seedKind "IndexLike")) := by
  intro huge answer
  have hyields : (Offer.value (.int huge)).Yields huge := ⟨_, rfl, .int huge⟩
  have hbeyond : ¬ Seed.Fits huge := not_fits_of_le le_rfl
  exact ⟨⟨hyields, hbeyond, Offer.Judged.validate (.beyond hyields hbeyond),
    Failure.message_seedRange_ne le_rfl⟩, rfl, rfl, rfl⟩

/-- An object that answers with a truth value makes the same search as the integer one does; an
    unsigned integer of 64 bits is too large; an object that answers with a scalar is refused. -/
theorem seed_admission_is_exact_answered :
    let made (o : Offer) (clock : Value) :=
      Solver.new "LocalSearchSolver" o.given? clock none #[]
        (LocalSearch.new none none none : LocalSearch Unit Unit) #[Generator.ofList [.int 3]]
    let answering := Offer.indexed (.value (.bool true))
    let large := Offer.scalar (.integer Width.unsignedMachine) (.int 9223372036854775808)
    let nested := Offer.indexed (.scalar (.integer Width.machine) (.int 5))
    (answering ≠ .value .none ∧ large ≠ .value .none ∧ nested ≠ .value .none) ∧
      (∃ solver generators, made answering (.int 0) = .ok (solver, generators) ∧
        solver.seed = 1 ∧ generators[solver.generator]? = some (Generator.ofSeed 1)) ∧
      made (.value (.int 1)) (.int 7) = made answering (.int 0) ∧
      made large (.int 0) = .error (.seedRange 9223372036854775808) ∧
      made nested (.int 0) = .error (.seedKind "IndexLike") := by
  intro made answering large nested
  have hanswering : answering ≠ .value .none := nofun
  have hlarge : large ≠ .value .none := nofun
  have hnested : nested ≠ .value .none := nofun
  have hexact (o : Offer) (h : o ≠ .value .none) := seed_admission_is_exact o h
    "LocalSearchSolver" (.int 0) none #[]
    (LocalSearch.new none none none : LocalSearch Unit Unit) #[Generator.ofList [.int 3]]
  obtain ⟨hok, -, -, -, -, -, htaken⟩ := hexact answering hanswering
  obtain ⟨-, -, hrange, -, -, hlargeMade, -⟩ := hexact large hlarge
  obtain ⟨-, ⟨hkind, -⟩, -, -, -, hnestedMade, -⟩ := hexact nested hnested
  refine ⟨⟨hanswering, hlarge, hnested⟩, ?_, ?_, ?_, ?_⟩
  · have hone : answering.validate = .ok 1 :=
      (hok 1).2 ⟨nofun, ⟨_, rfl, .bool true⟩, by norm_num [Seed.Fits]⟩
    obtain ⟨⟨solver, generators, hmade, hseeded⟩, -⟩ := htaken 1 hone
    obtain ⟨hplace, hafter⟩ := hseeded.own rfl
    refine ⟨solver, generators, hmade, hseeded.seed, ?_⟩
    rw [hplace, hafter]
    exact Array.getElem?_push_size
  · obtain ⟨-, hself, -, hsame⟩ := htaken 1 rfl
    exact hsame (.value (.int 1)) (.int 7) hself
  · exact (hlargeMade _).2 ((hrange _).1.2 (.inl ⟨⟨_, rfl, .int _⟩, by norm_num [Seed.Fits]⟩))
  · refine (hnestedMade _).2 (hkind.2 (.inr (.inl (.answers _ rfl ?_))))
    rintro n ⟨⟩

end HillClimb
