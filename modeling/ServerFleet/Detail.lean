import ServerFleet.Json
import ServerFleet.Path
import ServerFleet.Role

/-!
# The details of an error

What an error is reported with may be of any kind. `Detail.normalize` keeps texts,
numbers and truth values as they are, turns every collection into a list and every
other value into its text. The keys of a mapping are kept whatever they are, so what
it gives is JSON only if they are texts.

A detail that can change is no member of a set (`Detail.unfixed?`). `Detail.json`
gives a detail as JSON, as far as it is.

* `Detail.normalize_map`: how a mapping with texts as keys is kept.
-/

namespace ServerFleet

/-- The collections that count as lists. -/
inductive CollectionKind where
  | list
  | tuple
  | set
  | frozenSet
  deriving DecidableEq

/-- A value that an error is reported with. -/
inductive Detail where
  | null
  | bool (b : Bool)
  | int (n : Int)
  | float (x : Float)
  | text (s : String)
  /-- A role, which is a text too. -/
  | role (r : Role)
  | path (p : Path)
  /-- Another error, by its message. -/
  | failure (message : String)
  /-- A value of any other kind, by its text. -/
  | other (shown : String)
  | collection (kind : CollectionKind) (items : List Detail)
  /-- A mapping, whose keys may be of any kind too. -/
  | mapping (entries : List (Detail × Detail))

namespace Detail

/-- A mapping whose keys are texts. -/
def map (ds : Entries Detail) : Detail := .mapping (List.map (fun e => (.text e.1, e.2)) ds)

/-- A list of texts. -/
def texts (ss : List String) : Detail := .collection .list (ss.map .text)

/-- The text that a detail is, if it is one. -/
def text? : Detail → Option String
  | text s => some s
  | role r => some r.name
  | _ => none

mutual

/-- A detail as it is kept. -/
def normalize : Detail → Detail
  | null => null
  | bool b => bool b
  | int n => int n
  | float x => float x
  | text s => text s
  | role r => role r
  | path p => text p.text
  | failure message => text message
  | other shown => text shown
  | collection _ items => collection .list (normalizeAll items)
  | mapping entries => mapping (normalizeValues entries)

def normalizeAll : List Detail → List Detail
  | [] => []
  | d :: ds => d.normalize :: normalizeAll ds

/-- The entries of a mapping, with their keys as they are. -/
def normalizeValues : List (Detail × Detail) → List (Detail × Detail)
  | [] => []
  | (key, d) :: es => (key, d.normalize) :: normalizeValues es

end

/-- The details that an error is reported with, as they are kept. -/
def normalizeEntries (ds : Entries Detail) : Entries Detail :=
  List.map (fun e => (e.1, e.2.normalize)) ds

theorem normalizeAll_eq_map (items : List Detail) : normalizeAll items = items.map normalize := by
  induction items with
  | nil => rfl
  | cons d items ih => rw [normalizeAll, ih, List.map_cons]

theorem normalizeValues_eq_map (es : List (Detail × Detail)) :
    normalizeValues es = es.map fun e => (e.1, e.2.normalize) := by
  induction es with
  | nil => rfl
  | cons e es ih => rw [normalizeValues, ih, List.map_cons]

theorem normalize_map (ds : Entries Detail) : (map ds).normalize = map (normalizeEntries ds) := by
  rw [map, normalize, normalizeValues_eq_map, map, normalizeEntries, List.map_map, List.map_map]
  rfl

mutual

/-- The kind of the first part that keeps a detail out of sets. The members of
a set are fixed: no lists, sets or mappings, and no tuples that hold one. -/
def unfixed? : Detail → Option String
  | collection .list _ => some "list"
  | collection .set _ => some "set"
  | collection .tuple items => firstUnfixed? items
  | mapping _ => some "dict"
  | _ => none

def firstUnfixed? : List Detail → Option String
  | [] => none
  | d :: ds => d.unfixed? <|> firstUnfixed? ds

end

mutual

/-- A JSON value as a detail. -/
def ofJson : Json → Detail
  | .null => null
  | .bool b => bool b
  | .int n => int n
  | .float x => float x
  | .text s => text s
  | .list items => collection .list (ofJsonAll items)
  | .map entries => mapping (ofJsonEntries entries)

def ofJsonAll : List Json → List Detail
  | [] => []
  | j :: js => ofJson j :: ofJsonAll js

def ofJsonEntries : Entries → List (Detail × Detail)
  | [] => []
  | (key, j) :: es => (text key, ofJson j) :: ofJsonEntries es

end

mutual

/-- A detail as JSON, without the entries that have no text as their key. -/
def json : Detail → Json
  | null => .null
  | bool b => .bool b
  | int n => .int n
  | float x => .float x
  | text s => .text s
  | role r => .text r.name
  | path p => .text p.text
  | failure message => .text message
  | other shown => .text shown
  | collection _ items => .list (jsonAll items)
  | mapping entries => .map (jsonEntries entries)

def jsonAll : List Detail → List Json
  | [] => []
  | d :: ds => d.json :: jsonAll ds

def jsonEntries : List (Detail × Detail) → Entries
  | [] => []
  | (key, d) :: es => match key.text? with
    | some s => (s, d.json) :: jsonEntries es
    | none => jsonEntries es

end

/-- Details as JSON. -/
instance : CoeOut (Entries Detail) Entries := ⟨fun ds => ds.map fun e => (e.1, e.2.json)⟩

end Detail

end ServerFleet
