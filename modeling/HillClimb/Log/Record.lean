import HillClimb.Failure
import HillClimb.Value.Conversion

set_option autoImplicit false

/-! # Log records

A `LogRecord` has a `Level`, a number, and is written if the level asked for is not higher. A level
may be asked for by its name (`Level.ofName?`). The text of a record, `LogRecord.text?`, is its
message with the texts of its arguments filled in (`LogRecord.fill`); it is made only when the
record is shown, and a record with an argument that cannot be written has none. -/

namespace HillClimb

namespace Level

def notSet : Int := 0
def debug : Int := 10
def info : Int := 20
def warning : Int := 30
def error : Int := 40
def critical : Int := 50

/-- The level of a name in upper case. -/
def ofName? (name : String) : Option Int :=
  match name with
  | "CRITICAL" | "FATAL" => some critical
  | "ERROR" => some error
  | "WARNING" | "WARN" => some warning
  | "INFO" => some info
  | "DEBUG" => some debug
  | "NOTSET" => some notSet
  | _ => none

/-- The name of a level; a level without a name is named by its number. -/
def name (level : Int) : String :=
  if level = critical then "CRITICAL"
  else if level = error then "ERROR"
  else if level = warning then "WARNING"
  else if level = info then "INFO"
  else if level = debug then "DEBUG"
  else if level = notSet then "NOTSET"
  else "Level " ++ toString level

/-- The level that a value asks for: a number, or a name in upper case. -/
def ofValue : Value → Except Failure Int
  | .int n => .ok n
  | .bool b => .ok b.toInt
  | .text s =>
    match ofName? s with
    | some n => .ok n
    | none => .error (.noSuchLevel s)
  | v =>
    match v.itemText? with
    | some text => .error (.levelKind text)
    | none => .error .unwritable

/-- The least level of records that a part of the library writes, given the level asked for there.
    A part that is not set follows the root of the log, which stands at warnings. -/
def effective (level : Int) : Int := if level = notSet then warning else level

end Level

/-- The part of the library that writes a record. -/
inductive LogSource where
  /-- The lifecycle of solvers. -/
  | lifecycle
  /-- The local search. -/
  | search
  /-- The validation of comparators. -/
  | validation
  deriving DecidableEq, Repr

/-- A record of the log. -/
structure LogRecord where
  level : Int
  source : LogSource
  /-- What is told, with a `%s` in the place of every argument. -/
  message : String
  /-- The texts of the arguments; one that cannot be written has none. -/
  arguments : List (Option String)
  deriving DecidableEq, Repr

namespace LogRecord

/-- A message with texts filled into its places `%s`, if there are as many texts as places. -/
def fill : List Char → List String → Option (List Char)
  | [], [] => some []
  | [], _ :: _ => none
  | '%' :: 's' :: _, [] => none
  | '%' :: 's' :: rest, text :: texts => (fill rest texts).map (text.toList ++ ·)
  | c :: rest, texts => (fill rest texts).map (c :: ·)

/-- What is shown of a record. A message without arguments is shown as it is. -/
def text? (r : LogRecord) : Option String :=
  if r.arguments.isEmpty then some r.message
  else do
    let texts ← r.arguments.mapM id
    let shown ← fill r.message.toList texts
    return String.ofList shown

end LogRecord

end HillClimb
