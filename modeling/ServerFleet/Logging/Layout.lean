import ServerFleet.Json.Text
import ServerFleet.Logging.Record
import ServerFleet.Text.Lines
import ServerFleet.Text.Quoted

/-!
# Lines of the log

How a record is written: as an object of JSON on one line, or laid out for
people. The layout has the level, the text, the names of the logger, and then
the fields by name, each part in a style of its own. A stack and an exception
follow below, with a rule between them.

A layout takes as many lines as the texts in it have: only the value of a field
is quoted, and that only if it holds a blank, a quote or an equals sign.
-/

namespace ServerFleet.Logging

/-- How lines are written. -/
inductive Format where
  | json
  | console
  deriving DecidableEq

/-- What is written of a record. -/
inductive Line where
  /-- A line of JSON, which also has the time. -/
  | json (entries : Entries)
  /-- A line for people to read. -/
  | plain (text : String)

/-- A line as it is written. -/
def Line.text : Line → String
  | json entries => (Json.map entries).written
  | plain text => text

/-- The lines of a text for people to read. -/
def plainLines (s : String) : List Line := (Text.lines (s ++ "\n")).map .plain

/-! ## The layout for people -/

/-- A text in a style, given by its number. -/
def styled (style text : String) : String := "\x1b[" ++ style ++ "m" ++ text ++ "\x1b[0m"

/-- A text with spaces behind it up to a width. -/
def padded (width : Nat) (s : String) : String :=
  s ++ String.ofList (List.replicate (width - s.length) ' ')

/-- A value that stands by itself. -/
def titleText : Json → String
  | .text s => s
  | v => v.written

/-- Whether a text with this character must be quoted to be told from what is
around it. -/
def needsQuotes (c : Char) : Bool := " \t=\r\n\"'".toList.contains c

/-- The value of a field. -/
def fieldText : Json → String
  | .text s => if s.toList.any needsQuotes then Text.quoted s else s
  | v => v.written

/-- Whether a value counts as true: it is not null, false, zero or empty. -/
def isAffirmed : Json → Bool
  | .null => false
  | .bool b => b
  | .int n => n ≠ 0
  | .float x => x != 0.0
  | .text s => !s.isEmpty
  | .list items => !items.isEmpty
  | .map entries => !entries.isEmpty

/-- The fields that name the logger. -/
def titleFields : List String := ["logger", "logger_name"]

/-- The fields that are not written among the others, because they are written
elsewhere or replaced by what the record has itself. -/
def placedFields : List String :=
  titleFields ++ ["level", "timestamp", "stack", "exception", "exc_info"]

/-- The text of a field, if it has one. -/
def Record.fieldText? (r : Record) (key : String) : Option String :=
  match r.fields.get? key with
  | some (.text s) => some s
  | _ => none

/-- The stack and the exception of a record, below the rest. -/
def Record.traces (r : Record) : String :=
  let exception := r.fieldText? "exception"
  let isMarked := exception.isSome || (r.fields.get? "exc_info").any isAffirmed
  let rule := if isMarked then "\n\n" ++ String.ofList (List.replicate 79 '=') ++ "\n" else ""
  ((r.fieldText? "stack").map fun s => "\n" ++ s ++ rule).getD "" ++
    (exception.map ("\n" ++ ·)).getD ""

/-- A record laid out for people. -/
def Record.layout (r : Record) : String :=
  let titles := titleFields.filterMap fun key =>
    (r.fields.get? key).map fun v => "[" ++ styled "1;34" (titleText v) ++ "]"
  let others := (r.fields.filter fun f => !placedFields.contains f.1).mergeSort
    fun f g => f.1 ≤ g.1
  let parts := ["[" ++ styled "1" (padded 9 (severityName r.level)) ++ "]",
    styled "1" (padded 30 r.text)] ++ titles ++
      others.map fun f => styled "36" f.1 ++ "=" ++ styled "35" (fieldText f.2)
  " ".intercalate parts ++ r.traces

/-- The lines that a record comes to in a format. -/
def Record.lines (r : Record) : Format → List Line
  | .json =>
    [.json ((r.fields.set "event" (.text r.text)).set "level" (.text (severityName r.level)))]
  | .console => plainLines r.layout

end ServerFleet.Logging
