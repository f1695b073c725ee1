import HillClimb.Text.Numeral
import HillClimb.Text.Quoted
import HillClimb.Value.Basic

set_option autoImplicit false

/-! # Failures

A `Failure` is a cause. Its wording stands in one place, `Failure.message`, and is never looked at
by the library.

* `Failure.notStarted` is the `SolverNotInitializedError`, and `Failure.noFactory` is the
  `SolverConfigurationError`. Both are failures of a solver (`Failure.isSolverFault`), that is, a
  `SolverError`.
* A piece of code that a caller brings along may fail for reasons of its own. `Failure.raised`
  carries such a failure through unchanged, with the family (`Fault`) that it is of.
* A wording that names integers needs texts for them: where `Numeral.text?` has none, the wording is
  that of the failure to write an integer, `Failure.unwritten`. -/

namespace HillClimb

/-- The family of a failure that a caller's code brings in (`Failure.raised`). -/
inductive Fault where
  /-- A `SolverError` that is of neither of the two narrower families. -/
  | solver
  /-- A `SolverNotInitializedError`. -/
  | notStarted
  /-- A `SolverConfigurationError`. -/
  | configuration
  /-- A value of a kind that cannot be used. -/
  | kind
  /-- A look-up of what is not there. Its text is the key, which is told between quotes. -/
  | missingKey
  /-- The named family, whose failures are made of so many parts by the named maker. Of a text alone
      none can be made, and that is a failure of kind. -/
  | compound (name maker : String) (parts : Nat)
  /-- Any other family, by its name. -/
  | other (name : String)
  deriving DecidableEq, Repr

/-- A machine word, named by the failures of `Failure.beyondWord`. -/
inductive MachineWord where
  /-- The word that integers of fixed width are made of. -/
  | long
  /-- The word that counts bits. -/
  | count
  /-- The word that tells how many things there are. -/
  | size
  deriving DecidableEq, Repr

/-- The name of a word in messages. -/
def MachineWord.name : MachineWord → String
  | .long => "long"
  | .count => "int"
  | .size => "ssize_t"

/-- A number that bounds a draw of `Generator.stepping`. -/
inductive Bound where
  | start | stop | step
  deriving DecidableEq, Repr

/-- The name of a bound in messages. -/
def Bound.name : Bound → String
  | .start => "arg 1"
  | .stop => "stop"
  | .step => "step"

/-- Why something failed. A case without a comment is what `Failure.message` says of it. -/
inductive Failure where
  | notStarted
  /-- The named solver has no `SolutionFactory`, and no methods of its own that make solutions. -/
  | noFactory (solver : String)
  | absent (property : String)
  /-- An object of the named sort has no such property. -/
  | lacks (owner property : String)
  | unordered (relation : Relation) (left right : Kind)
  | unsupported (operation : Arithmetic) (left right : Kind)
  /-- Only a value of the first kind can be put behind one of that kind. -/
  | unjoinable (left right : Kind)
  | beyondReal
  | beyondScalar (n : Int) (type : String)
  | beyondWord (word : MachineWord)
  | noRoom
  /-- A text is no integer. It is given between its quotes. -/
  | notInteger (quotedText : String)
  | tooManyDigits (most digits : Nat)
  /-- An integer has too many digits to be written as a text: `Numeral.text?` has none. -/
  | unwritable
  /-- A text is no number. It is given between its quotes. -/
  | notNumber (quotedText : String)
  /-- Something of the named sort is never an integer. -/
  | neverInteger (sort : String)
  /-- Something of the named sort is never a number. -/
  | neverNumber (sort : String)
  /-- Something of the named sort is no integer as it stands. -/
  | notIndex (sort : String)
  /-- The answer of an object that was asked for its `__index__` is no integer but of the named
      sort. -/
  | wrongIndex (sort : String)
  | infiniteToInt
  | nanToInt
  | seedKind (sort : String)
  | seedRange (n : Int)
  | emptyBetween (low high : Int)
  | emptyBelow
  | notWhole (bound : Bound)
  | noStop
  | zeroStep
  | negativeBits
  | nothingToChoose
  | zeroModulus
  | unknownLevel (name : String)
  /-- A name that is none of a log level, where no case of letters is forgiven. -/
  | noSuchLevel (name : String)
  /-- A log level that is neither a number nor a name, given by its text. -/
  | levelKind (text : String)
  | badFormat (format : String)
  /-- Rows of different lengths, behind the dimensions found so far. -/
  | ragged (shape : List Nat)
  | tooDeep (dimensions : Nat)
  | noSuchPlace
  | beyondPlaces
  | wrongPlace (sort : String)
  | notListed (sort : String)
  | scriptExhausted
  | noSuchSolver
  /-- A failure that a scenario has staged. -/
  | staged (text : String)
  /-- A failure of a caller's code, of the family `fault`. -/
  | raised (fault : Fault) (text : String)
  deriving DecidableEq, Repr

namespace Failure

/-- The text of a shape, a single dimension with a comma behind it. -/
def shapeText : List Nat → String
  | [n] => s!"({n},)"
  | shape => "(" ++ String.intercalate ", " (shape.map toString) ++ ")"

/-- The beginning of a text. -/
def excerpt (s : String) : String := String.ofList (s.toList.take 200)

/-- The wording of a failure of the family `Fault` that a caller's code brings in, given its
    text. -/
def wording (text : String) : Fault → String
  | .missingKey => quoted text
  | .compound _ maker parts =>
    maker ++ " takes exactly " ++ toString parts ++ " arguments (1 given)"
  | _ => text

/-- The wording of the failure to write an integer beyond `Numeral.mostDigits`. -/
def unwritten : String :=
  "Exceeds the limit (" ++ toString Numeral.mostDigits ++ " digits) for integer string " ++
    "conversion; use sys.set_int_max_str_digits() to increase the limit"

/-- The wording of a failure. Making it may fail itself, if an integer in it cannot be written; the
    wording is then `Failure.unwritten`. -/
def message : Failure → String
  | .notStarted => "initialize() must be called before step()"
  | .noFactory solver =>
    solver ++ " has no SolutionFactory; pass one or override create_initial_solution() " ++
      "and create_random_neighbor()"
  | .absent property => "'NoneType' object has no attribute '" ++ property ++ "'"
  | .lacks owner property => "'" ++ owner ++ "' object has no attribute '" ++ property ++ "'"
  | .unordered relation left right =>
    "'" ++ relation.symbol ++ "' not supported between instances of '" ++ left.name ++ "' and '" ++
      right.name ++ "'"
  | .unsupported operation left right =>
    "unsupported operand type(s) for " ++ operation.symbol ++ ": '" ++ left.name ++ "' and '" ++
      right.name ++ "'"
  | .unjoinable left right =>
    "can only concatenate " ++ left.name ++ " (not \"" ++ right.name ++ "\") to " ++ left.name
  | .beyondReal => "int too large to convert to float"
  | .beyondScalar n type => "Python integer " ++ toString n ++ " out of bounds for " ++ type
  | .beyondWord word => "Python int too large to convert to C " ++ word.name
  | .noRoom => ""
  | .notInteger quotedText => "invalid literal for int() with base 10: " ++ excerpt quotedText
  | .tooManyDigits most digits =>
    "Exceeds the limit (" ++ toString most ++ " digits) for integer string conversion: " ++
      "value has " ++ toString digits ++
      " digits; use sys.set_int_max_str_digits() to increase the limit"
  | .unwritable => unwritten
  | .notNumber quotedText => "could not convert string to float: " ++ quotedText
  | .neverInteger sort =>
    "int() argument must be a string, a bytes-like object or a real number, not '" ++ sort ++ "'"
  | .neverNumber sort => "float() argument must be a string or a real number, not '" ++ sort ++ "'"
  | .notIndex sort => "'" ++ sort ++ "' object cannot be interpreted as an integer"
  | .wrongIndex sort => "__index__ returned non-int (type " ++ sort ++ ")"
  | .infiniteToInt => "cannot convert float infinity to integer"
  | .nanToInt => "cannot convert float NaN to integer"
  | .seedKind sort => "Seed must be an integer, got " ++ sort
  | .seedRange n =>
    ((Numeral.text? n).map fun text =>
      "Seed " ++ text ++ " does not fit in a signed 64-bit integer").getD unwritten
  | .emptyBetween low high =>
    let texts := [low, high + 1, high + 1 - low].mapM Numeral.text?
    (texts.map fun texts =>
      "empty range for randrange() (" ++ String.intercalate ", " texts ++ ")").getD unwritten
  | .emptyBelow => "empty range for randrange()"
  | .notWhole bound => "non-integer " ++ bound.name ++ " for randrange()"
  | .noStop => "Missing a non-None stop argument"
  | .zeroStep => "zero step for randrange()"
  | .negativeBits => "number of bits must be non-negative"
  | .nothingToChoose => "Cannot choose from an empty sequence"
  | .zeroModulus => "integer modulo by zero"
  | .unknownLevel name => "Unknown log level: Level " ++ name
  | .noSuchLevel name => "Unknown level: " ++ quoted name
  | .levelKind text => "Level not an integer or a valid string: " ++ text
  | .badFormat format => "Invalid format '" ++ format ++ "' for '%' style"
  | .ragged shape =>
    "setting an array element with a sequence. The requested array has an inhomogeneous shape " ++
      "after " ++ toString shape.length ++ " dimensions. The detected shape was " ++
      shapeText shape ++ " + inhomogeneous part."
  | .tooDeep dimensions =>
    "setting an array element with a sequence. The requested array would exceed the maximum " ++
      "number of dimension of " ++ toString dimensions ++ "."
  | .noSuchPlace => "list index out of range"
  | .beyondPlaces => "cannot fit 'int' into an index-sized integer"
  | .wrongPlace sort => "list indices must be integers or slices, not " ++ sort
  | .notListed sort => "'" ++ sort ++ "' object is not iterable"
  | .scriptExhausted => "script exhausted"
  | .noSuchSolver => "no such solver"
  | .staged text => text
  | .raised fault text => wording text fault

/-- Whether the failure is a `SolverError`, the two narrower families included. -/
def isSolverFault : Failure → Bool
  | .notStarted => true
  | .noFactory _ => true
  | .raised .solver _ => true
  | .raised .notStarted _ => true
  | .raised .configuration _ => true
  | _ => false

/-- Whether the failure is one of kind: something was of a kind that could not be used. -/
def isKindFault : Failure → Bool
  | .unordered .. => true
  | .unsupported .. => true
  | .unjoinable .. => true
  | .neverInteger _ => true
  | .neverNumber _ => true
  | .notIndex _ => true
  | .wrongIndex _ => true
  | .noStop => true
  | .levelKind _ => true
  | .wrongPlace _ => true
  | .notListed _ => true
  | .raised .kind _ => true
  | .raised (.compound ..) _ => true
  | _ => false

end Failure

end HillClimb
