import ServerFleet.Number.Decimal

/-!
# Numbers given as text

A setting that is a number may be given as text. Such a text is read more
strictly than a variable of the environment in its digits, which are ASCII, and
more leniently in its form: an integer may have zeros in front and a fraction
of zeros behind.
-/

namespace ServerFleet.Number

open Text

/-- The blanks that may surround a number given as text: the white space of
Unicode, to which the information separators do not belong. -/
def isOuterBlank (c : Char) : Bool := isBlank c && !(0x1c ≤ c.toNat && c.toNat ≤ 0x1f)

def trimOuter (s : String) : List Char :=
  ((s.toList.dropWhile isOuterBlank).reverse.dropWhile isOuterBlank).reverse

/-- What follows leading zeros, the last of which was `zero`. The zeros may be
grouped by underscores, and the last stays if no digit and no minus follows. -/
def skipZeros (zero : Char) : List Char → Option (List Char)
  | [] => some [zero]
  | c :: cs =>
    if c = '0' || c = '_' then skipZeros c cs
    else if c.isDigit || c = '-' then some (c :: cs)
    else if c = '.' then some (zero :: c :: cs)
    else none

/-- A text that begins with a digit, without its leading zeros. -/
def dropLeadingZeros : List Char → Option (List Char)
  | [] => none
  | c :: cs => if c = '0' then skipZeros c cs else if c.isDigit then some (c :: cs) else none

/-- An integer without a fraction that is zero. A point alone is no fraction. -/
def dropZeroFraction (cs : List Char) : List Char :=
  match cs.dropWhile (· ≠ '.') with
  | '.' :: '0' :: zeros => if zeros.all (· = '0') then cs.takeWhile (· ≠ '.') else cs
  | _ => cs

/-- A number without the underscores between its characters. A text that begins
or ends with one, or has two in a row, keeps them all. -/
def ungroup (cs : List Char) : List Char :=
  let doubled := (cs.zip cs.tail).any fun p => p.1 = '_' && p.2 = '_'
  if cs.head? = some '_' || cs.getLast? = some '_' || doubled then cs
  else cs.filter (· ≠ '_')

/-- Why a text is no integer. -/
inductive IntegerFault where
  | unreadable
  | oversized
  deriving DecidableEq

/-- A minus, if there is one, and the rest. -/
def takeMinus : List Char → Bool × List Char
  | '-' :: cs => (true, cs)
  | cs => (false, cs)

/-- Reads an integer in its plain form: digits without leading zeros, after an
optional minus. Too many digits are refused whatever follows them. -/
def plainInteger (cs : List Char) : Except IntegerFault Int :=
  let (negative, body) := takeMinus cs
  let ds := body.takeWhile Char.isDigit
  let leadingZero := ds.head? = some '0'
  if !leadingZero && ds.length > maxDigits then .error .oversized
  else if ds.isEmpty || (leadingZero && ds.length > 1) || ds.length < body.length then
    .error .unreadable
  else .ok (if negative then -(ofDigits ds : Int) else ofDigits ds)

/-- An integer brought to its plain form: without the blanks around it, a plus
and leading zeros in front, a zero fraction behind and underscores between the
digits. -/
def plainForm? (s : String) : Option (List Char) :=
  let cs := trimOuter s
  let unsigned := if cs.head? = some '+' then cs.tail else cs
  let (negative, body) := takeMinus unsigned
  if negative && cs.head? = some '+' then none
  else (dropLeadingZeros body).map fun digits =>
    let form := ungroup (dropZeroFraction digits)
    if negative then '-' :: form else form

/-- Reads an integer given as text. Only one in plain form can have too many
digits; any other with as many is unreadable. -/
def lenientInteger (s : String) : Except IntegerFault Int :=
  match plainInteger s.toList with
  | .error .unreadable => match (plainForm? s).map plainInteger with
    | some (.ok n) => .ok n
    | _ => .error .unreadable
  | answer => answer

/-- Reads a floating-point number given as text. Only one without underscores
may have blanks around it. -/
def lenientNumber? (s : String) : Option Float :=
  let read (cs : List Char) : Option Float :=
    let (negative, body) := takeSign cs
    (magnitude? body).map fun x => if negative then -x else x
  match read (trimOuter s) with
  | some x => some x
  | none => read (ungroup s.toList)

end ServerFleet.Number
