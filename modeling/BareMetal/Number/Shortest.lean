/-
# The shortest decimal of a binary number

A finite value has many decimals that read back as it. Of those with the fewest
digits the nearest one to the value is shown; of two equally near ones the one
with the even last digit.

The decimal is written out when its first digit stands at a place from 10^-4 to
10^15, always with at least one digit after the point. Otherwise it is written
with one digit before the point and an exponent that has a sign and at least two
digits.

| value | text |
| --- | --- |
| 0.1 | `0.1` |
| 10^16 | `1e+16` |
| 123456789 | `123456789.0` |
| 1.5 · 10^-5 | `1.5e-05` |
| negative zero | `-0.0` |
-/

import BareMetal.Number.Binary64

namespace BareMetal

namespace Binary64

/-- A number of quanta as a quotient `n / d · 10^-400`, which is at least one
for every positive number of quanta. -/
def scaled (quanta : Nat) : Nat := quanta * Nat.pow 10 400 / one

/-- The place of the first digit of a positive number of quanta: the greatest
power of ten that does not exceed it. -/
def leadingPlace (quanta : Nat) : Int :=
  (Number.decimalLength (scaled quanta) : Int) - 401

/-- Four times the quanta at the lower and upper end of the decimals that round
to a positive number of quanta. Half the distance to the neighbour belongs to
either; the lower neighbour of a power of two is at half the distance. -/
def readBackEnds (quanta : Nat) : Nat × Nat :=
  let e := excess quanta
  let unit := Nat.pow 2 e
  let low := if e ≠ 0 ∧ quanta = Nat.pow 2 52 * unit then unit else 2 * unit
  (4 * quanta - low, 4 * quanta + 2 * unit)

/-- `digits · 10^place` reads back as a positive number of quanta. The ends of
the interval belong to it when the last binary digit kept is even. -/
def readsBack (quanta digits : Nat) (place : Int) : Bool :=
  let (low, high) := readBackEnds quanta
  let even := quanta / Nat.pow 2 (excess quanta) % 2 = 0
  -- both sides of the comparison are multiplied by the power of ten below the point
  let value := 4 * digits * Nat.pow 10 place.toNat * one
  let scale := Nat.pow 10 (-place).toNat
  if even then low * scale ≤ value ∧ value ≤ high * scale
  else low * scale < value ∧ value < high * scale

/-- The nearest multiple of `10^place` to a positive number of quanta, the even
one of two, in units of `10^place`. -/
def nearestAtPlace (quanta : Nat) (place : Int) : Nat :=
  Number.nearestEven (quanta * Nat.pow 10 (-place).toNat) (one * Nat.pow 10 place.toNat)

/-- The two neighbours of a positive number of quanta among the multiples of
`10^place`, the nearer one first. -/
def neighboursAtPlace (quanta : Nat) (place : Int) : List Nat :=
  let near := nearestAtPlace quanta place
  let below := quanta * Nat.pow 10 (-place).toNat / (one * Nat.pow 10 place.toNat)
  if near = below then [below, below + 1] else [below + 1, below]

/-- The first decimal of `count` digits or more that reads back. -/
def shortestFrom (quanta : Nat) (leading : Int) : (left count : Nat) → Nat × Int
  | 0, count =>
    let place := leading + 1 - count
    (nearestAtPlace quanta place, place)
  | left + 1, count =>
    let place := leading + 1 - count
    match (neighboursAtPlace quanta place).find? (readsBack quanta · place) with
    | some digits => (digits, place)
    | none => shortestFrom quanta leading left (count + 1)

/-- The digits of the shortest decimal of a positive number of quanta and the
place of the last one. Seventeen digits always read back. -/
def shortest (quanta : Nat) : Nat × Int :=
  shortestFrom quanta (leadingPlace quanta) 16 1

/-- The digits without their trailing zeros. -/
def stripZeros (ds : List Char) : List Char :=
  (ds.reverse.dropWhile (· = '0')).reverse

/-- A decimal number, given by its digits and the place of the last, as it is
shown. -/
def layout (digits : Nat) (place : Int) : List Char :=
  let all := Nat.toDigits 10 digits
  let leading := place + all.length - 1
  let ds := stripZeros all
  if -4 ≤ leading ∧ leading < 16 then
    if leading < 0 then
      '0' :: '.' :: List.replicate (-leading - 1).toNat '0' ++ ds
    else
      let whole := leading.toNat + 1
      let before := ds.take whole ++ List.replicate (whole - ds.length) '0'
      let after := ds.drop whole
      before ++ '.' :: (if after.isEmpty then ['0'] else after)
  else
    let mantissa :=
      match ds with
      | [] => ['0']
      | [d] => [d]
      | d :: rest => d :: '.' :: rest
    let size := Nat.toDigits 10 leading.natAbs
    let padded := if size.length < 2 then '0' :: size else size
    mantissa ++ 'e' :: (if leading < 0 then '-' else '+') :: padded

/-- The characters of a finite value. -/
def showFinite (negative : Bool) (quanta : Nat) : List Char :=
  let body :=
    if quanta = 0 then ['0', '.', '0']
    else
      let (digits, place) := shortest quanta
      layout digits place
  if negative then '-' :: body else body

/-- The text of a value, with the names `inf` and `nan`. -/
def text : Binary64 → String
  | finite negative quanta => String.ofList (showFinite negative quanta)
  | infinite negative => if negative then "-inf" else "inf"
  | nan => "nan"

end Binary64
end BareMetal
