/-
# Numerals in text

A numeral may stand between blanks, may use the decimal digits of any script,
and may have single underscores between two digits.

| numeral | form, without the underscores |
| --- | --- |
| whole number | an optional sign and digits, at most 4300 of them |
| number | an optional sign, and `inf`, `infinity`, `nan` in any case, or digits with at most one point, of which one is not alone, and an optional exponent |

A number that is too great for a finite value is infinite.
-/

import BareMetal.Text.Blank
import BareMetal.Text.Digit
import BareMetal.Number.Binary64

namespace BareMetal
namespace Numeral

/-- The most digits that a whole number may be written with. -/
def digitLimit : Nat := 4300

/-- Drops the underscores, each of which has to stand between two digits.
`afterDigit` says whether a digit has just been passed. -/
def dropUnderscores? (afterDigit : Bool) : List Char → Option (List Char)
  | [] => some []
  | '_' :: c :: cs =>
    if afterDigit && c.isDigit then (dropUnderscores? true cs).map (c :: ·) else none
  | c :: cs => if c = '_' then none else (dropUnderscores? c.isDigit cs).map (c :: ·)

/-- The numeral without blanks around it, with ASCII digits. -/
def plain (cs : List Char) : List Char :=
  (Text.trim Text.isBlank cs).map Text.asciiDigit

/-- The sign in front, if there is one, and what follows. -/
def splitSign : List Char → Bool × List Char
  | '-' :: cs => (true, cs)
  | '+' :: cs => (false, cs)
  | cs => (false, cs)

/-- The number that a row of digits stands for. -/
def ofDigits (ds : List Char) : Nat := Nat.ofDigitChars 10 ds 0

/-- The whole number that a text is a numeral of. -/
def int? (s : String) : Option Int :=
  let (negative, cs) := splitSign (plain s.toList)
  match dropUnderscores? false cs with
  | some ds =>
    if !ds.isEmpty && ds.all Char.isDigit && ds.length ≤ digitLimit then
      let n : Int := ofDigits ds
      some (if negative then -n else n)
    else none
  | none => none

/-- An exponent: the letter, an optional sign and digits, or nothing at all. -/
def exponent? : List Char → Option Int
  | [] => some 0
  | c :: cs =>
    let (negative, ds) := splitSign cs
    if (c = 'e' || c = 'E') && !ds.isEmpty && ds.all Char.isDigit then
      let n : Int := ofDigits ds
      some (if negative then -n else n)
    else none

/-- The digits before and after a point, and what follows them. -/
def splitPoint (cs : List Char) : List Char × List Char × List Char :=
  let whole := cs.takeWhile Char.isDigit
  match cs.dropWhile Char.isDigit with
  | '.' :: rest => (whole, rest.takeWhile Char.isDigit, rest.dropWhile Char.isDigit)
  | rest => (whole, [], rest)

/-- The value of digits before and after a point with an exponent. -/
def ofParts (negative : Bool) (whole fraction : List Char) (exponent : Int) : Binary64 :=
  Binary64.ofDecimal negative (ofDigits (whole ++ fraction)) (exponent - fraction.length)

/-- The number that a text is a numeral of. -/
def float? (s : String) : Option Binary64 :=
  let (negative, cs) := splitSign (plain s.toList)
  match dropUnderscores? false cs with
  | none => none
  | some cs =>
    let word := String.ofList (cs.map Text.lowerAscii)
    if word = "inf" || word = "infinity" then some (.infinite negative)
    else if word = "nan" then some .nan
    else
      let (whole, fraction, rest) := splitPoint cs
      if whole.isEmpty && fraction.isEmpty then none
      else (exponent? rest).map (ofParts negative whole fraction)

end Numeral
end BareMetal
