/-
# Base64

Three bytes are written as four characters of six bits each; a last group of
one or two bytes is filled up with `=`.

Reading is strict. The first fault met from left to right is reported:

| fault | met at |
| --- | --- |
| not ASCII | anywhere in the text, before all else |
| padding at the start | `=` as the first character |
| padding inside the data | a character of the alphabet after a `=` |
| data after the padding | anything after a complete padding |
| a character outside the alphabet | the character |
| incomplete group | the end of the text |
-/

namespace BareMetal
namespace Text
namespace Base64

/-- The character of a number below 64. -/
def letter (n : Nat) : Char :=
  if n < 26 then Char.ofNat (65 + n)
  else if n < 52 then Char.ofNat (71 + n)
  else if n < 62 then Char.ofNat (n - 4)
  else if n = 62 then '+'
  else '/'

/-- The number of a character of the alphabet. -/
def value? (c : Char) : Option Nat :=
  let n := c.toNat
  if 65 ≤ n ∧ n ≤ 90 then some (n - 65)
  else if 97 ≤ n ∧ n ≤ 122 then some (n - 71)
  else if 48 ≤ n ∧ n ≤ 57 then some (n + 4)
  else if c = '+' then some 62
  else if c = '/' then some 63
  else none

/-- The written form of a byte string. -/
def encode : List UInt8 → List Char
  | [] => []
  | [a] =>
    let n := a.toNat * 16
    [letter (n / 64), letter (n % 64), '=', '=']
  | [a, b] =>
    let n := (a.toNat * 256 + b.toNat) * 4
    [letter (n / 4096), letter (n / 64 % 64), letter (n % 64), '=']
  | a :: b :: c :: rest =>
    let n := (a.toNat * 256 + b.toNat) * 256 + c.toNat
    letter (n / 262144) :: letter (n / 4096 % 64) :: letter (n / 64 % 64) :: letter (n % 64) ::
      encode rest

/-- Why a text is not the base64 form of a byte string. -/
inductive Fault where
  | notAscii
  | leadingPadding
  | discontinuousPadding
  | excessData
  | foreignCharacter
  | incompletePadding
  /-- The count of characters is one more than a multiple of four. -/
  | looseCharacter (count : Nat)
deriving DecidableEq, Repr

/-- The wording of a fault. -/
def Fault.message : Fault → String
  | notAscii => "string argument should contain only ASCII characters"
  | leadingPadding => "Leading padding not allowed"
  | discontinuousPadding => "Discontinuous padding not allowed"
  | excessData => "Excess data after padding"
  | foreignCharacter => "Only base64 data is allowed"
  | incompletePadding => "Incorrect padding"
  | looseCharacter n =>
    s!"Invalid base64-encoded string: number of data characters ({n}) cannot be 1 more than a multiple of 4"

/-- How far a text has been read. -/
structure Progress where
  /-- The characters of the alphabet in the group at hand, fewer than four. -/
  inGroup : Nat
  /-- The bits of the group at hand that are not yet in a byte. -/
  left : Nat
  /-- The bytes read. -/
  bytes : Nat
  /-- The padding characters since the last character of the alphabet. -/
  pads : Nat
deriving Repr

/-- The bytes of the rest of a text. -/
def decodeFrom (p : Progress) : List Char → Except Fault (List UInt8)
  | [] =>
    if p.inGroup = 0 then .ok []
    else if p.inGroup = 1 then .error (.looseCharacter (p.bytes / 3 * 4 + 1))
    else .error .incompletePadding
  | c :: cs =>
    if c = '=' then
      if 2 ≤ p.inGroup ∧ 4 ≤ p.inGroup + (p.pads + 1) then
        if cs.isEmpty then .ok [] else .error .excessData
      else decodeFrom { p with pads := p.pads + 1 } cs
    else
      match value? c with
      | none => .error .foreignCharacter
      | some v =>
        if 0 < p.pads then .error .discontinuousPadding
        else
          match p.inGroup with
          | 0 => decodeFrom { p with inGroup := 1, left := v } cs
          | 1 =>
            (decodeFrom { p with inGroup := 2, left := v % 16, bytes := p.bytes + 1 } cs).map
              (UInt8.ofNat (p.left * 4 + v / 16) :: ·)
          | 2 =>
            (decodeFrom { p with inGroup := 3, left := v % 4, bytes := p.bytes + 1 } cs).map
              (UInt8.ofNat (p.left * 16 + v / 4) :: ·)
          | _ =>
            (decodeFrom { p with inGroup := 0, left := 0, bytes := p.bytes + 1 } cs).map
              (UInt8.ofNat (p.left * 64 + v) :: ·)

/-- The byte string that a text is the base64 form of. -/
def decode (cs : List Char) : Except Fault (List UInt8) :=
  if cs.any (0x80 ≤ ·.toNat) then .error .notAscii
  else if cs.head? = some '=' then .error .leadingPadding
  else decodeFrom ⟨0, 0, 0, 0⟩ cs

end Base64
end Text
end BareMetal
