/-
# Quoted text

A text or a byte string as it is shown inside a message.

* It stands between apostrophes, or between quotation marks if it holds an
  apostrophe and no quotation mark.
* The mark in use and the backslash are preceded by a backslash; tab, line feed
  and carriage return are `\t`, `\n`, `\r`.
* What is not printable is `\x` with two, `\u` with four or `\U` with eight hex
  digits, the shortest that holds its code.
* In a byte string every byte outside 0x20–0x7E is `\x` with two hex digits,
  and a `b` stands in front.
-/

import BareMetal.Text.Printable

namespace BareMetal
namespace Text

/-- The lower-case hexadecimal digit of a number below 16. -/
def hexDigit (n : Nat) : Char :=
  if n < 10 then Char.ofNat (48 + n) else Char.ofNat (87 + n)

/-- The last `width` hexadecimal digits of a number. -/
def hex : (width : Nat) → Nat → List Char
  | 0, _ => []
  | w + 1, n => hex w (n / 16) ++ [hexDigit (n % 16)]

/-- The mark that a quoted text stands between. -/
def quoteMark (hasApostrophe hasQuote : Bool) : Char :=
  if hasApostrophe && !hasQuote then '"' else '\''

/-- One character of a quoted text. -/
def quotedChar (mark c : Char) : List Char :=
  if c = mark ∨ c = '\\' then ['\\', c]
  else if c = '\t' then ['\\', 't']
  else if c = '\n' then ['\\', 'n']
  else if c = '\r' then ['\\', 'r']
  else if isPrintable c then [c]
  else if c.toNat < 0x100 then '\\' :: 'x' :: hex 2 c.toNat
  else if c.toNat < 0x10000 then '\\' :: 'u' :: hex 4 c.toNat
  else '\\' :: 'U' :: hex 8 c.toNat

/-- A text as it is shown inside a message. -/
def quoted (s : String) : String :=
  let cs := s.toList
  let mark := quoteMark (cs.contains '\'') (cs.contains '"')
  String.ofList (mark :: cs.flatMap (quotedChar mark) ++ [mark])

/-- One byte of a quoted byte string. -/
def quotedByte (mark : Char) (b : UInt8) : List Char :=
  if 0x20 ≤ b ∧ b < 0x7F ∨ b = 9 ∨ b = 10 ∨ b = 13 then quotedChar mark (Char.ofNat b.toNat)
  else '\\' :: 'x' :: hex 2 b.toNat

/-- A byte string as it is shown inside a message. -/
def quotedBytes (bs : List UInt8) : String :=
  let mark := quoteMark (bs.contains 39) (bs.contains 34)
  String.ofList ('b' :: mark :: bs.flatMap (quotedByte mark) ++ [mark])

end Text
end BareMetal
