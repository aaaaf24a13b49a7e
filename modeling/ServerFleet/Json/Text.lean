import ServerFleet.Json
import ServerFleet.Number.Shortest
import ServerFleet.Text.Quoted

/-!
# JSON as text

How a value is written on one line: with a blank after every comma and colon,
and in printable ASCII, where any other character is escaped by its units in
UTF-16. Doubles are written with the fewest digits that read back.
-/

namespace ServerFleet.Json

open Text (hexDigits)

/-- The units of a character in UTF-16. -/
def units (c : Char) : List Nat :=
  let n := c.toNat
  if n < 0x10000 then [n]
  else [0xd800 + (n - 0x10000) / 0x400, 0xdc00 + (n - 0x10000) % 0x400]

/-- What follows the backslash in the short escape of a character that has one. -/
def shortEscape? : Char → Option Char
  | '\x22' => some '\x22'
  | '\x5c' => some '\x5c'
  | '\n' => some 'n'
  | '\r' => some 'r'
  | '\t' => some 't'
  | '\x08' => some 'b'
  | '\x0c' => some 'f'
  | _ => none

/-- A character as it stands between quotes. -/
def escape (c : Char) : List Char :=
  match shortEscape? c with
  | some e => ['\x5c', e]
  | none =>
    if 0x20 ≤ c.toNat && c.toNat ≤ 0x7e then [c]
    else (units c).flatMap fun u => '\x5c' :: 'u' :: hexDigits 4 u

/-- A text between quotes. -/
def quoted (s : String) : String :=
  String.ofList ('\x22' :: s.toList.flatMap escape ++ ['\x22'])

/-- A double, which JSON has no spelling of its own for if it is not finite. -/
def floatWord (x : Float) : String :=
  if x.isNaN then "NaN"
  else if x.isInf then (if x < 0.0 then "-Infinity" else "Infinity")
  else Number.floatText x

mutual

/-- A value as text. -/
def written : Json → String
  | null => "null"
  | bool b => if b then "true" else "false"
  | int n => toString n
  | float x => floatWord x
  | text s => quoted s
  | list items => "[" ++ ", ".intercalate (writtenAll items) ++ "]"
  | map entries => "\x7b" ++ ", ".intercalate (writtenEntries entries) ++ "\x7d"

def writtenAll : List Json → List String
  | [] => []
  | j :: js => written j :: writtenAll js

def writtenEntries : List (String × Json) → List String
  | [] => []
  | (k, v) :: es => (quoted k ++ ": " ++ written v) :: writtenEntries es

end

end ServerFleet.Json
