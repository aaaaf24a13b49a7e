import ServerFleet.Event
import ServerFleet.Json
import ServerFleet.Number.Integer

/-!
# Records of the log

A record has a level, a text, and fields with values. A level is given by its
name or its number; levels between the named ones are told apart by number.

Records come from events, which have no fields, and from calls that are named
for their level (`Record.ofCall`). A call passes its fields by name, so a field
must not have the name of something that the call passes by itself; the fields
named as the log's own marks are left out.

* `repeatedField?_eq_none_iff`: the fields that a call can hand over.
-/

namespace ServerFleet.Logging

/-! ## Levels -/

/-- The level that nothing else determines. -/
def defaultLevel : Int := 20

def debugLevel : Int := 10

/-- The levels that have names. -/
def levelNames : List (String × Int) :=
  [("CRITICAL", 50), ("FATAL", 50), ("ERROR", 40), ("WARN", 30), ("WARNING", 30), ("INFO", 20),
    ("DEBUG", 10), ("NOTSET", 0)]

/-- The capital of a letter, for those letters whose capital is an ASCII letter. -/
def capital (c : Char) : Char :=
  if c = 'ı' then 'I' else if c = 'ſ' then 'S' else c.toUpper

/-- The level that a text names or writes. -/
def levelOfText (s : String) : Int :=
  match Number.Integer.parse? s with
  | some n => n
  | none =>
    let name := String.ofList (s.toList.map capital)
    ((levelNames.find? (·.1 = name)).map (·.2)).getD defaultLevel

/-- The name of a severity. -/
def severityName (level : Int) : String :=
  match level with
  | 10 => "debug"
  | 20 => "info"
  | 30 => "warning"
  | 40 => "error"
  | 50 => "critical"
  | 0 => "notset"
  | n => "level " ++ toString n

/-! ## Records -/

/-- Something to be logged. -/
structure Record where
  level : Int
  text : String
  fields : Entries := []

/-- The record that an event is, if it is one for the log. -/
def Record.ofEvent? : Event → Option Record
  | .log level text => some { level := level.severity, text := text }
  | _ => none

/-- The call that a name stands for. -/
def callName : String → String
  | "warn" => "warning"
  | name => name

/-- The field that is passed twice, with what it is passed to. A call passes
itself and the text on by name before it hands the fields over. -/
def repeatedField? (name : String) (fields : Entries) : Option (String × String) :=
  match fields.find? fun f => f.1 = "self" || f.1 = "event" with
  | some (field, _) => some ("BoundLogger." ++ callName name, field)
  | none =>
    if fields.any (·.1 = "method_name") then
      some ("BoundLogger._proxy_to_logger", "method_name")
    else none

/-- A call hands its fields over unless one has the name of what it passes itself. -/
theorem repeatedField?_eq_none_iff {name : String} {fields : Entries} :
    repeatedField? name fields = none ↔
      ∀ f ∈ fields, f.1 ≠ "self" ∧ f.1 ≠ "event" ∧ f.1 ≠ "method_name" := by
  unfold repeatedField?
  split
  · next field _ found =>
    have taken := List.find?_some found
    have member := List.mem_of_find?_eq_some found
    simp only [reduceCtorEq, false_iff]
    intro h
    obtain ⟨self, event, -⟩ := h _ member
    simp_all
  · next absent =>
    simp only [List.find?_eq_none] at absent
    constructor
    · rintro h ⟨key, value⟩ member
      have := absent _ member
      have : key ≠ "method_name" := fun same => by simp_all
      simp_all
    · intro h
      have : fields.any (·.1 = "method_name") = false := by
        simpa using fun key value member => (h (key, value) member).2.2
      simp [this]

/-- Whether a field is kept: two names are taken for the log's own marks. -/
def isKept (name : String) : Bool := name ≠ "_record" && name ≠ "_from_structlog"

/-- The record of a call that is named for its level. A call for an exception is
an error that is marked as one, unless its fields have the mark already. -/
def Record.ofCall (name text : String) (fields : Entries) : Except Failure Record :=
  match repeatedField? name fields with
  | some (callee, field) => .error (.argumentTwice callee field)
  | none =>
    let fields := fields.filter fun f => isKept f.1
    if name = "exception" then
      .ok {
        level := Level.error.severity
        text := text
        fields := if fields.any (·.1 = "exc_info") then fields
          else fields ++ [("exc_info", .bool true)] }
    else .ok ⟨levelOfText name, text, fields⟩

end ServerFleet.Logging
