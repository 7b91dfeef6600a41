/-
# Sizes for people

A size in bytes is shown with two decimals in the first of the units B, KB, MB,
GB, TB in which it is below 1024, or else in PB. The unit is chosen before the
number is rounded, so a size just below 1024 units is shown as 1024.00 of them.
Divisions are those of floating-point numbers, and a tie in the second decimal
goes to the even digit.
-/

import BareMetal.Failure
import BareMetal.Number.Quantity
import BareMetal.Number.Shortest

namespace BareMetal
namespace Size

/-- The units below the greatest one. -/
def units : List String := ["B", "KB", "MB", "GB", "TB"]

/-- The characters of a number of hundredths. -/
def showHundredths (n : Nat) : List Char :=
  let cents := n % 100
  Nat.toDigits 10 (n / 100) ++ '.' :: Nat.toDigits 10 (cents / 10) ++ Nat.toDigits 10 (cents % 10)

/-- A floating-point number with two decimals. -/
def showFixed : Binary64 → String
  | .finite negative quanta =>
    let body := showHundredths (Number.nearestEven (quanta * 100) Binary64.one)
    String.ofList (if negative then '-' :: body else body)
  | x => x.text

/-- A number that is too great for a floating-point number. -/
def tooGreat : Failure := .plain .overflow "int too large to convert to float"

/-- A quantity as a floating-point number. -/
def asFloat : Quantity → Except Failure Binary64
  | .float x => .ok x
  | .whole n => (Binary64.ofInt? n).elim (.error tooGreat) .ok

/-- The quantity is below 1024. -/
def isSmall : Quantity → Bool
  | .float x => x.isBelow 1024
  | .whole n => n < 1024

/-- Shows a quantity in the first of some units in which it is small, or else in
the greatest unit. -/
def showIn : List String → Quantity → Except Failure String
  | [], q => (asFloat q).map fun x => s!"{showFixed x} PB"
  | unit :: units, q =>
    if isSmall q then (asFloat q).map fun x => s!"{showFixed x} {unit}"
    else
      match asFloat q with
      | .ok x => showIn units (.float (x.divPow2 10))
      | .error e => .error e

/-- A number of bytes as it is shown to people; nothing is not available. -/
def text : Option Quantity → Except Failure String
  | none => .ok "N/A"
  | some q => showIn units q

end Size
end BareMetal
