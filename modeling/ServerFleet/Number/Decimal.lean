import ServerFleet.Number.Integer

/-!
# Decimal fractions as text

`Decimal.parse?` reads a floating-point number: an optional sign, then digits
with an optional point and an optional power of ten, or the words `inf`,
`infinity` and `nan` in any case. Underscores are allowed between digits, and
white space around. The result is the double nearest to the decimal.
-/

namespace ServerFleet.Number

/-- A number without its underscores, which may stand only between digits. -/
def dropInnerUnderscores? (afterDigit : Bool) : List Char → Option (List Char)
  | [] => some []
  | c :: cs =>
    if c = '_' then
      if afterDigit && (cs.head?.map Char.isDigit).getD false then dropInnerUnderscores? false cs
      else none
    else (dropInnerUnderscores? c.isDigit cs).map (c :: ·)

/-- A power of ten: `none` if there is no digit. -/
def exponent? (cs : List Char) : Option Int :=
  let (negative, ds) := takeSign cs
  if ds.isEmpty || !ds.all Char.isDigit then none
  else some (if negative then -(ofDigits ds : Int) else ofDigits ds)

/-- The double nearest to `m · 10 ^ e`. A decimal far outside the range of
doubles is infinite or zero whatever its digits are: `m` lies between powers of
ten that follow from its length in bits. -/
def nearest (m : Nat) (e : Int) : Float :=
  let bits : Int := Nat.log2 m
  if m = 0 then 0.0
  else if e + 3 * bits / 10 > 400 then 1.0 / 0.0
  else if e + (bits + 1) * 4 / 10 < -400 then 0.0
  else if 0 ≤ e then Float.ofScientific m false e.toNat
  else Float.ofScientific m true (-e).toNat

/-- Reads a number without sign, underscores and blanks. -/
def magnitude? (cs : List Char) : Option Float :=
  let word := String.ofList (cs.map Char.toLower)
  if word = "inf" || word = "infinity" then some (1.0 / 0.0)
  else if word = "nan" then some (0.0 / 0.0)
  else
    let whole := cs.takeWhile Char.isDigit
    let rest := cs.dropWhile Char.isDigit
    let (fraction, rest) := match rest with
      | '.' :: r => (r.takeWhile Char.isDigit, r.dropWhile Char.isDigit)
      | r => ([], r)
    if whole.isEmpty && fraction.isEmpty then none
    else
      let value (e : Int) := nearest (ofDigits (whole ++ fraction)) (e - fraction.length)
      match rest with
      | [] => some (value 0)
      | c :: r => if c = 'e' || c = 'E' then (exponent? r).map value else none

/-- Reads a floating-point number. -/
def Decimal.parse? (s : String) : Option Float := do
  let (negative, body) := takeSign (← dropInnerUnderscores? false (← numeral? s))
  let x ← magnitude? body
  return if negative then -x else x

end ServerFleet.Number
