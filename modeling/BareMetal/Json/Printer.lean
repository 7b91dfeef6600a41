/-
# Writing JSON

The text is plain ASCII. A comma and a colon are followed by one space; there is
no other white space outside of texts. In a text the characters from U+0020 to
U+007E stand for themselves except `"` and `\`, which have a `\` in front; the
escapes `\n`, `\r`, `\t`, `\b`, `\f` are used where they apply, and every other
character is `\u` with four lower-case hex digits, or two of these for a
surrogate pair.
-/

import BareMetal.Datum
import BareMetal.Number.Shortest
import BareMetal.Text.Quoted

namespace BareMetal
namespace Json

/-- The escape of a 16-bit code. -/
def unicodeEscape (n : Nat) : List Char := '\\' :: 'u' :: Text.hex 4 n

/-- One character of a text. -/
def renderChar (c : Char) : List Char :=
  let n := c.toNat
  if c = '"' ∨ c = '\\' then ['\\', c]
  else if 0x20 ≤ n ∧ n ≤ 0x7E then [c]
  else if c = '\n' then ['\\', 'n']
  else if c = '\r' then ['\\', 'r']
  else if c = '\t' then ['\\', 't']
  else if n = 8 then ['\\', 'b']
  else if n = 12 then ['\\', 'f']
  else if n < 0x10000 then unicodeEscape n
  else
    unicodeEscape (0xD800 + (n - 0x10000) / 0x400) ++
      unicodeEscape (0xDC00 + (n - 0x10000) % 0x400)

/-- A text with its marks. -/
def renderText (s : String) : List Char :=
  '"' :: s.toList.flatMap renderChar ++ ['"']

/-- A whole number. -/
def renderInt (n : Int) : List Char :=
  if n < 0 then '-' :: Nat.toDigits 10 n.natAbs else Nat.toDigits 10 n.natAbs

/-- A floating-point number. -/
def renderFloat : Binary64 → List Char
  | .finite negative quanta => Binary64.showFinite negative quanta
  | .infinite negative => (if negative then "-Infinity" else "Infinity").toList
  | .nan => "NaN".toList

mutual

/-- The JSON text of a value. A byte string, which JSON has no form for, stands
as a quoted byte string. -/
def render : Datum → List Char
  | .null => "null".toList
  | .bool b => (if b then "true" else "false").toList
  | .int n => renderInt n
  | .float x => renderFloat x
  | .text s => renderText s
  | .bytes bs => (Text.quotedBytes bs).toList
  | .list items => '[' :: renderItems items ++ [']']
  | .map entries => '\x7b' :: renderEntries entries ++ ['\x7d']

/-- The items of a list with the commas between them. -/
def renderItems : List Datum → List Char
  | [] => []
  | [d] => render d
  | d :: ds => render d ++ ',' :: ' ' :: renderItems ds

/-- The entries of a map with the commas between them. -/
def renderEntries : List (String × Datum) → List Char
  | [] => []
  | [(k, d)] => renderText k ++ ':' :: ' ' :: render d
  | (k, d) :: es => renderText k ++ ':' :: ' ' :: (render d ++ ',' :: ' ' :: renderEntries es)

end

end Json
end BareMetal
