import HillClimb.Log.Field
import HillClimb.Log.Record
import HillClimb.Text.Word

set_option autoImplicit false

/-! # Log formats

A format is a text with fields, each of which names what it shows (`Piece`). `line?` is the line
that is written of a record in a format.

A format `isValid` if a field is found in it (`startsWithField`). That does not yet mean that lines
can be written with it, since the rest may be no format at all (`pieces?`), and then nothing is
written. -/

namespace HillClimb

namespace LogFormat

/-! ## Validity -/

/-- The flags of a field. -/
def flagChars : List Char := ['#', '0', '+', ' ', '-']

/-- The letters that end a field, and three more letters that are those without case. -/
def endings : List Char :=
  ['d', 'i', 'o', 'u', 'x', 'e', 'f', 'g', 'c', 'r', 's', 'a', '%',
    Char.ofNat 0x130, Char.ofNat 0x131, Char.ofNat 0x17f]

/-- Whether a letter ends a field, small or capital. -/
def isEnding (c : Char) : Bool := endings.contains c || endings.contains c.toLower

/-- The rest behind a star or some digits, if there are any. -/
def afterCount? : List Char → Option (List Char)
  | '*' :: rest => some rest
  | cs =>
    if (cs.takeWhile isAnyDigit).isEmpty then none else some (cs.dropWhile isAnyDigit)

/-- The rest behind a point and a count, if it begins with them. -/
def afterPrecision? : List Char → Option (List Char)
  | '.' :: rest => afterCount? rest
  | _ => none

/-- Whether a text begins with a field. -/
def startsWithField : List Char → Bool
  | '%' :: '(' :: cs =>
    match cs.takeWhile isWordChar, cs.dropWhile isWordChar with
    | _ :: _, ')' :: rest =>
      let rest := rest.dropWhile flagChars.contains
      let rest := (afterCount? rest).getD rest
      let rest := (afterPrecision? rest).getD rest
      match rest with
      | c :: _ => isEnding c
      | [] => false
    | _, _ => false
  | _ => false

/-- Whether a field is found in a text. -/
def hasField : List Char → Bool
  | [] => false
  | c :: cs => startsWithField (c :: cs) || hasField cs

/-- Whether a format is valid, that is, whether a handler can be made with it. -/
def isValid (format : String) : Bool := hasField format.toList

/-! ## Pieces -/

/-- A piece of a format. -/
inductive Piece where
  | literal (c : Char)
  /-- A field, which names what it shows or shows the record as a whole. -/
  | field (key : Option String) (spec : FieldSpec)

/-- The greatest precision that a field may ask for, far beyond `longest`. -/
def greatestPrecision : Nat := pow2 31 - 1

/-- The number written by decimal digits, if it is not too great; no digits stand for zero. -/
def count? (greatest : Nat) (digits : List Char) : Option Nat :=
  let n := digits.foldl (fun n c => 10 * n + (c.toNat - '0'.toNat)) 0
  if n ≤ greatest then some n else none

/-- The name in brackets, which may hold brackets itself, and the rest behind it. -/
def key? : Nat → List Char → Option (List Char × List Char)
  | _, [] => none
  | level, c :: cs =>
    if c = ')' ∧ level = 0 then some ([], cs)
    else
      let level := if c = '(' then level + 1 else if c = ')' then level - 1 else level
      (key? level cs).map fun (key, rest) => (c :: key, rest)

/-- What a field asks for behind its name, and the rest behind the field. -/
def spec? (cs : List Char) : Option (FieldSpec × List Char) := do
  let flags := cs.takeWhile flagChars.contains
  let cs := cs.dropWhile flagChars.contains
  let width ← count? longest (cs.takeWhile Char.isDigit)
  let cs := cs.dropWhile Char.isDigit
  let (precision, cs) ← match cs with
    | '.' :: cs => do
      let p ← count? greatestPrecision (cs.takeWhile Char.isDigit)
      pure (some p, cs.dropWhile Char.isDigit)
    | cs => pure (none, cs)
  let cs := match cs with
    | c :: rest => if c = 'h' ∨ c = 'l' ∨ c = 'L' then rest else c :: rest
    | [] => []
  match cs with
  | ending :: rest => some (⟨flags, width, precision, ending⟩, rest)
  | [] => none

/-- The pieces of a format, or nothing if it is no format: a percent sign begins a field or stands
    for itself when it is doubled. Each piece takes up a character at least, so the length of the
    format bounds their number. -/
def pieces? : Nat → List Char → Option (List Piece)
  | _, [] => some []
  | 0, _ => none
  | bound + 1, '%' :: '(' :: cs => do
    let (key, cs) ← key? 0 cs
    let (spec, cs) ← spec? cs
    let rest ← pieces? bound cs
    return .field (some (String.ofList key)) spec :: rest
  | bound + 1, '%' :: '%' :: cs => do
    let rest ← pieces? bound cs
    return .literal '%' :: rest
  | bound + 1, '%' :: cs => do
    let (spec, cs) ← spec? cs
    let rest ← pieces? bound cs
    return .field none spec :: rest
  | bound + 1, c :: cs => do
    let rest ← pieces? bound cs
    return .literal c :: rest

/-- Whether fields without a name come first and once at most. The record as a whole is shown only
    before any of its parts is. -/
def wellOrdered (pieces : List Piece) : Bool :=
  let keys := pieces.filterMap fun
    | .literal _ => none
    | .field key _ => some key
  (keys.drop 1).all Option.isSome

/-! ## Writing a line -/

/-- A record that is sent through the log, with its `Level`. -/
structure Emission where
  level : Int
  text : String

/-- What a field shows: a `Value`, or what is known of something longer. -/
inductive Exhibit where
  | value (v : Value)
  /-- Something of which only the beginning of the text is told. -/
  | beginning (known : String)

/-- The parts of a record that tell of where and when it was made. They are never told, so a format
    that names one has no `line?`. -/
def origins : List String :=
  ["pathname", "filename", "module", "lineno", "funcName", "created", "msecs", "relativeCreated",
    "thread", "process"]

/-- What the fields of a format show of a record. The time is not told. -/
def attribute? (e : Emission) (key : String) : Option Exhibit :=
  match key with
  | "name" => some (.value (.text "root"))
  | "levelno" => some (.value (.int e.level))
  | "levelname" => some (.value (.text (Level.name e.level)))
  | "message" | "msg" => some (.value (.text e.text))
  | "args" => some (.value (.tuple []))
  | "asctime" => some (.value (.text "TIME"))
  | "exc_info" | "exc_text" | "stack_info" => some (.value .none)
  | "threadName" => some (.value (.text "MainThread"))
  | "processName" => some (.value (.text "MainProcess"))
  | key => if origins.contains key then some (.beginning "") else none

/-- The beginning of a record as a whole: its parts in order, up to the first of the `origins`. -/
def recordText (quote : String → String) (e : Emission) : String :=
  "\x7b'name': 'root', 'msg': " ++ quote e.text ++ ", 'args': (), 'levelname': " ++
    quote (Level.name e.level) ++ ", 'levelno': " ++ toString e.level ++ ", 'pathname': "

/-- What a field shows: a part of the record by its name (`attribute?`), or all of it. -/
def exhibit? (e : Emission) (ending : Char) : Option String → Option Exhibit
  | some key => attribute? e key
  | none => some (.beginning (recordText (if ending = 'a' then quotedAscii else quoted) e))

/-- An exhibit as a field asks for it. What is only told in part can be written as a text alone
    (`writeBeginning?`). -/
def writeExhibit? (spec : FieldSpec) : Exhibit → Option (List Char)
  | .value v => write? spec v
  | .beginning known =>
    if ['s', 'r', 'a'].contains spec.ending then writeBeginning? spec known else none

/-- The text of a piece of a format. -/
def writePiece? (e : Emission) : Piece → Option (List Char)
  | .literal c => some [c]
  | .field key spec => (exhibit? e spec.ending key).bind (writeExhibit? spec)

/-- The text that is written of a record, if one can be written in this format: the `pieces?` must
    be `wellOrdered`, and every one of them written. -/
def line? (format : String) (e : Emission) : Option String := do
  let pieces ← pieces? format.length format.toList
  if wellOrdered pieces then
    let texts ← pieces.mapM (writePiece? e)
    return String.ofList texts.flatten
  else none

end LogFormat

end HillClimb
