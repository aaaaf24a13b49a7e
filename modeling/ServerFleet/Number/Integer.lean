import ServerFleet.Text.Blank
import ServerFleet.Text.Digit

/-!
# Integers as text

`Integer.parse?` reads a decimal integer: an optional sign and digits of any
script, single underscores allowed between them, with white space around. At
most 4300 digits are read.
-/

namespace ServerFleet.Number

open Text

/-- The blanks of the ASCII range that may surround a number. -/
def isAsciiBlank (c : Char) : Bool :=
  c = ' ' || (0x09 ≤ c.toNat && c.toNat ≤ 0x0d)

/-- A numeral in ASCII: Unicode blanks as spaces and decimal digits of any
script as ASCII digits. `none` if any other character is not ASCII. A text
that is all ASCII is left alone. -/
def asciiNumeral? (cs : List Char) : Option (List Char) :=
  if cs.all fun c => c.toNat < 0x80 then some cs
  else cs.mapM fun c =>
    if c.toNat < 0x7f then some c
    else if isBlank c then some ' '
    else (digitValue? c).map Nat.digitChar

/-- The characters of a numeral in ASCII, without the blanks around it. -/
def numeral? (s : String) : Option (List Char) :=
  (asciiNumeral? s.toList).map fun cs =>
    ((cs.dropWhile isAsciiBlank).reverse.dropWhile isAsciiBlank).reverse

/-- A sign, if there is one, and the rest. `true` is minus. -/
def takeSign : List Char → Bool × List Char
  | '-' :: cs => (true, cs)
  | '+' :: cs => (false, cs)
  | cs => (false, cs)

/-- Digits with single underscores between them, without the underscores.
`afterDigit` tells that a digit came before. -/
def dropUnderscores? (afterDigit : Bool) : List Char → Option (List Char)
  | [] => if afterDigit then some [] else none
  | c :: cs =>
    if c.isDigit then (dropUnderscores? true cs).map (c :: ·)
    else if c = '_' && afterDigit then dropUnderscores? false cs
    else none

/-- The number that decimal digits write. -/
def ofDigits (ds : List Char) : Nat := ds.foldl (fun n d => 10 * n + (d.toNat - 48)) 0

/-- The most digits that are read as an integer. -/
def maxDigits : Nat := 4300

/-- Reads a decimal integer. -/
def Integer.parse? (s : String) : Option Int := do
  let (negative, body) := takeSign (← numeral? s)
  let digits ← dropUnderscores? false body
  if digits.length > maxDigits then none
  else
    let n : Int := ofDigits digits
    return if negative then -n else n

end ServerFleet.Number
