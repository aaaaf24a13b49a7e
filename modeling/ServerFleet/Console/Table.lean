import ServerFleet.Role

/-!
# Tables

What the console shows in columns. `Table.lines` sets it in plain text, every
column as wide as its widest cell.
-/

namespace ServerFleet.Console

/-- A table to be shown. -/
structure Table where
  title : String
  columns : List String
  rows : List (List String)
  deriving DecidableEq

namespace Table

/-- The width of the widest text. -/
def widest (texts : List String) : Nat := (texts.map String.length).foldl max 0

/-- A text with blanks behind it up to a width. -/
def padded (width : Nat) (s : String) : String :=
  s ++ String.ofList (List.replicate (width - s.length) ' ')

/-- The widths of the columns. -/
def widths (t : Table) : List Nat :=
  (List.range t.columns.length).map fun k =>
    widest ((t.columns :: t.rows).map fun row => row.getD k "")

/-- The lines of the table. -/
def lines (t : Table) : List String :=
  t.title :: (t.columns :: t.rows).map fun row =>
    "  ".intercalate (List.zipWith padded t.widths row)

end Table

end ServerFleet.Console
