import HillClimb.Failure
import HillClimb.Log.Format
import HillClimb.Text.Uppercase

set_option autoImplicit false

/-! # Setting up the log

`RootLog.configure` is `configure_logging`. The root of the log has a level and some handlers, each
with a format. It is set up once: as soon as there is a handler, a further set-up changes nothing
and looks at nothing but the name of its level (`RootLog.addHandler`). The format is looked at
before the handler is added, the kind of the level after it.

`RootLog.lines` are the lines that the handlers write of some records. -/

namespace HillClimb

/-! ## Lines -/

/-- Whether a character ends a line. -/
def isLineEnd (c : Char) : Bool :=
  (0x0a ≤ c.toNat && c.toNat ≤ 0x0d) || (0x1c ≤ c.toNat && c.toNat ≤ 0x1e) || c.toNat == 0x85 ||
    c.toNat == 0x2028 || c.toNat == 0x2029

/-- The lines of a text, behind what is read of the first one, backwards; a carriage return and a
    line feed after it are one end. -/
def linesFrom : List Char → List Char → List (List Char)
  | [], [] => []
  | [], line => [line.reverse]
  | '\r' :: '\n' :: rest, line => line.reverse :: linesFrom rest []
  | c :: rest, line =>
    if isLineEnd c then line.reverse :: linesFrom rest [] else linesFrom rest (c :: line)

/-- The lines of a text, without their ends. -/
def linesOf (s : String) : List String := (linesFrom s.toList []).map String.ofList

/-! ## The root of the log -/

/-- The root of the log: its level, and the formats of its handlers. -/
structure RootLog where
  level : Int := Level.warning
  formats : List String := []
  deriving Repr, DecidableEq

namespace RootLog

/-- The format of a set-up that gives none: the `LOG_FORMAT` of the library. -/
def defaultFormat : String := "%(asctime)s - %(levelname)s - %(message)s"

/-- The name of the level of a set-up that gives none: the `LOG_LEVEL` of the environment or
    `INFO`. -/
def defaultLevel (environment : Option String) : String :=
  upperCase (environment.getD "INFO")

/-- The level that is asked for: a name stands for its number (`Level.ofName?`), in any case of
    letters. -/
def resolveLevel (fallback : String) (level : Value) : Except Failure Value :=
  let named : Value := match level with
    | .none => .text fallback
    | v => v
  match named with
  | .text s =>
    match Level.ofName? (upperCase s) with
    | some n => .ok (.int n)
    | none => .error (.unknownLevel (upperCase s))
  | v => .ok v

/-- Sets the level of the root to what `Level.ofValue` makes of the value, unless it fails. -/
def setLevel (root : RootLog) (level : Value) : Except Failure Unit × RootLog :=
  match Level.ofValue level with
  | .ok n => (.ok (), { root with level := n })
  | .error cause => (.error cause, root)

/-- Adds a handler with a format and sets the level, unless there is a handler already. -/
def addHandler (root : RootLog) (level : Value) (format : String) :
    Except Failure Unit × RootLog :=
  if !root.formats.isEmpty then (.ok (), root)
  else if !LogFormat.isValid format then (.error (.badFormat format), root)
  else { root with formats := [format] }.setLevel level

/-- Sets up the log, as `configure_logging` does. A format that is missing or empty is
    `defaultFormat`, and a level that is missing is `fallback`. -/
def configure (root : RootLog) (fallback : String) (level : Value) (format : Option String) :
    Except Failure Unit × RootLog :=
  match resolveLevel fallback level with
  | .error cause => (.error cause, root)
  | .ok level =>
    let format := match format with
      | some f => if f.isEmpty then defaultFormat else f
      | none => defaultFormat
    root.addHandler level format

/-- Whether a record of a level is written. A level that is not above zero is none. -/
def writes (root : RootLog) (level : Int) : Bool :=
  decide (0 < level) && decide (root.level ≤ level)

/-- All that the handlers write of some records, each of which ends a line. -/
def output (root : RootLog) (emissions : List LogFormat.Emission) : String :=
  let texts := (emissions.filter fun e => root.writes e.level).flatMap fun e =>
    root.formats.filterMap fun format => LogFormat.line? format e
  String.join (texts.map (· ++ "\n"))

/-- The lines that the handlers write of some records. -/
def lines (root : RootLog) (emissions : List LogFormat.Emission) : List String :=
  linesOf (root.output emissions)

end RootLog

end HillClimb
