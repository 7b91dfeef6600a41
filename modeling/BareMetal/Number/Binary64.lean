/-
# Binary floating-point numbers of 64 bits

A finite value is a sign and a whole number of *quanta*; one quantum is the
least positive value, 2^-1074. A number of quanta is a value if its binary form
has at most 53 digits before its trailing zeros and if it is below the limit
2^2098, which stands for 2^1024. Every operation takes the exact result, as a
quotient, to the nearest value, the even one of two; what reaches the limit
becomes infinite.

| number | quanta |
| --- | --- |
| least positive value | 1 |
| least normal value, 2^-1022 | 2^52 |
| 1 | 2^1074 |
| greatest finite value | 2^2098 - 2^2045 |
-/

import BareMetal.Number.Rounding

namespace BareMetal

/-- The number of decimal digits of a number; one for zero. -/
def Number.decimalLength (n : Nat) : Nat := (Nat.toDigits 10 n).length

/-- A binary floating-point number of 64 bits. -/
inductive Binary64 where
  | finite (negative : Bool) (quanta : Nat)
  | infinite (negative : Bool)
  | nan
deriving DecidableEq, Repr, Inhabited

namespace Binary64

/-- The quanta of the number one. -/
def one : Nat := Nat.pow 2 1074

/-- The first power of two, in quanta, that is not a finite value. -/
def limit : Nat := Nat.pow 2 2098

/-- How many binary places a number of quanta has beyond the 53 that are kept. -/
def excess (quanta : Nat) : Nat := quanta.log2 + 1 - 53

/-- The number of quanta nearest to `n / d` that is kept exactly, the even one
of two. -/
def roundQuanta (n d : Nat) : Nat :=
  let unit := Nat.pow 2 (excess (n / d))
  Number.nearestEven n (d * unit) * unit

/-- The value of a sign and a number of quanta. -/
def ofQuanta (negative : Bool) (quanta : Nat) : Binary64 :=
  if quanta < limit then .finite negative quanta else .infinite negative

/-- The value nearest to `± n / d`. -/
def ofQuotient (negative : Bool) (n d : Nat) : Binary64 :=
  ofQuanta negative (roundQuanta (n * one) d)

/-- The value nearest to `± digits · 10^exponent`. A number of 400 or more
decimal places before or after the point is infinite or zero outright. -/
def ofDecimal (negative : Bool) (digits : Nat) (exponent : Int) : Binary64 :=
  if digits = 0 then .finite negative 0
  else
    let places := exponent + Number.decimalLength digits
    if 400 < places then .infinite negative
    else if places < -400 then .finite negative 0
    else if 0 ≤ exponent then ofQuotient negative (digits * Nat.pow 10 exponent.toNat) 1
    else ofQuotient negative digits (Nat.pow 10 (-exponent).toNat)

/-- The value nearest to a whole number, or nothing if that is not finite. -/
def ofInt? (n : Int) : Option Binary64 :=
  let quanta := roundQuanta (n.natAbs * one) 1
  if quanta < limit then some (.finite (n < 0) quanta) else none

/-- The whole part of a finite value, toward zero. -/
def truncate? : Binary64 → Option Int
  | finite negative quanta =>
    let n : Int := ((quanta / one : Nat) : Int)
    some (if negative then -n else n)
  | _ => none

/-- The value divided by `2^n`. -/
def divPow2 (n : Nat) : Binary64 → Binary64
  | finite negative quanta => .finite negative (roundQuanta quanta (Nat.pow 2 n))
  | x => x

/-- The quanta of a finite value with its sign. -/
def signedQuanta (negative : Bool) (quanta : Nat) : Int :=
  if negative then -quanta else quanta

/-- The value is below a whole number; not-a-number is below none. -/
def isBelow (x : Binary64) (n : Int) : Bool :=
  match x with
  | finite negative quanta => signedQuanta negative quanta < n * one
  | infinite negative => negative
  | nan => false

/-- The value is a whole number at most; not-a-number is at most none. -/
def isAtMost (x : Binary64) (n : Int) : Bool :=
  match x with
  | finite negative quanta => signedQuanta negative quanta ≤ n * one
  | infinite negative => negative
  | nan => false

end Binary64
end BareMetal
