/-!
# The shortest decimal of a double

Among the decimals that a double is the nearest double to, `shortest` finds one
with the fewest digits, and of those the one nearest to it.

A finite positive double is `m · 2 ^ q`. The numbers that round to it form an
interval around it, whose ends belong to it if `m` is even. For one digit, two
digits and so on, the two neighbours of the double on that grid of decimals are
tested against the interval, all in integers. Seventeen digits always suffice.

`floatText` writes a double: positionally from `0.0001` to below `10 ^ 16`,
with `.0` if it is whole, and with a power of ten otherwise.
-/

namespace ServerFleet.Number

/-- A power of two. -/
def twoTo (n : Nat) : Nat := Nat.pow 2 n

/-- A power of ten. -/
def tenTo (n : Nat) : Nat := Nat.pow 10 n

/-- A positive double as `mantissa · 2 ^ power`, with whether the double below
it lies half as far away as the one above. -/
structure Binary where
  mantissa : Nat
  power : Int
  narrowBelow : Bool

/-- The parts of a double, without its sign. `none` for zero, the infinities
and what is not a number. -/
def Binary.ofBits? (bits : UInt64) : Option Binary :=
  let n : Nat := bits.toNat % twoTo 63
  let e : Nat := n / twoTo 52
  let f : Nat := n % twoTo 52
  if e = 2047 || n = 0 then none
  else if e = 0 then some ⟨f, -1074, false⟩
  else some ⟨twoTo 52 + f, (e : Int) - 1075, f = 0 && e > 1⟩

/-- `a · 2 ^ q` over `b · 10 ^ p` as a numerator and a denominator. -/
def ratio (a : Nat) (q : Int) (p : Int) : Nat × Nat :=
  (a * twoTo q.toNat * tenTo (-p).toNat, twoTo (-q).toNat * tenTo p.toNat)

/-- Whether the decimal `d · 10 ^ p` rounds to `x`. -/
def Binary.roundsFrom (x : Binary) (d : Nat) (p : Int) : Bool :=
  -- everything in quarters of the last binary place
  let (above, den) := ratio (4 * x.mantissa + 2) (x.power - 2) p
  let (below, _) := ratio (4 * x.mantissa - if x.narrowBelow then 1 else 2) (x.power - 2) p
  if x.mantissa % 2 = 0 then below ≤ d * den && d * den ≤ above
  else below < d * den && d * den < above

/-- The power of ten of the leading digit: the greatest `k` with
`10 ^ k ≤ x`. -/
def Binary.leading (x : Binary) : Int :=
  let whole := x.mantissa * twoTo x.power.toNat / twoTo (-x.power).toNat
  if 0 < whole then (Nat.toDigits 10 whole).length - 1
  else
    -- `x < 1`: count the digits of `x · 10 ^ 400`
    ((Nat.toDigits 10 (x.mantissa * tenTo 400 / twoTo (-x.power).toNat)).length : Int) - 401

/-- The better of the two neighbours of `x` on the grid of multiples of
`10 ^ p` that round to `x`, if any does. -/
def Binary.onGrid? (x : Binary) (p : Int) : Option Nat :=
  let (num, den) := ratio x.mantissa x.power p
  let d := num / den
  let up := x.roundsFrom (d + 1) p
  if x.roundsFrom d p && 0 < d then
    if up && 2 * (num % den) > den then some (d + 1)
    else if up && 2 * (num % den) = den && d % 2 = 1 then some (d + 1)
    else some d
  else if up then some (d + 1)
  else none

/-- The digits and the power of ten of the last one: tries `fuel` grids from
`10 ^ p` on, each ten times as fine as the one before. -/
def Binary.search (x : Binary) : Nat → Int → Nat × Int
  | 0, p => (let (num, den) := ratio x.mantissa x.power p; num / den, p)
  | fuel + 1, p => match x.onGrid? p with
    | some d => (d, p)
    | none => x.search fuel (p - 1)

/-- The digits of the shortest decimal and the power of ten of the last. -/
def Binary.shortest (x : Binary) : Nat × Int := x.search 17 x.leading

/-- Digits without the zeros at their end, and how many those were. -/
def dropZeros (ds : List Char) : List Char × Nat :=
  let r := ds.reverse
  ((r.dropWhile (· = '0')).reverse, (r.takeWhile (· = '0')).length)

/-- Writes the digits `ds`, the last of which counts `10 ^ p`. -/
def decimalText (ds : List Char) (p : Int) : List Char :=
  let k := p + ds.length
  if -4 < k && k ≤ 16 then
    if 0 ≤ p then ds ++ List.replicate p.toNat '0' ++ ['.', '0']
    else if 0 < k then ds.take k.toNat ++ '.' :: ds.drop k.toNat
    else '0' :: '.' :: List.replicate (-k).toNat '0' ++ ds
  else
    let e := k - 1
    let size := Nat.toDigits 10 e.natAbs
    ds.take 1 ++ (if ds.length = 1 then [] else '.' :: ds.drop 1) ++
      'e' :: (if e < 0 then '-' else '+') :: (if size.length = 1 then '0' :: size else size)

/-- A double as messages show it. -/
def floatText (x : Float) : String :=
  let bits := x.toBits
  let sign := if bits.toNat / twoTo 63 = 1 then "-" else ""
  if x.isNaN then "nan"
  else if x.isInf then sign ++ "inf"
  else match Binary.ofBits? bits with
    | none => sign ++ "0.0"
    | some b =>
      let (d, p) := b.shortest
      let (ds, zeros) := dropZeros (Nat.toDigits 10 d)
      sign ++ String.ofList (decimalText ds (p + zeros))

end ServerFleet.Number
