/-
# Blank characters

Two classes are in use. A *blank* has the Unicode property White_Space; blanks
may surround a numeral. *Spacing* is a blank or one of the four information
separators; spacing may surround a version and a name in a list of names.

| class | members | count |
| --- | --- | ---: |
| blank | U+0009–U+000D, U+0020, U+0085, U+00A0, U+1680, U+2000–U+200A, U+2028, U+2029, U+202F, U+205F, U+3000 | 25 |
| spacing | the blanks and U+001C–U+001F | 29 |
-/

namespace BareMetal
namespace Text

/-- A character with the property White_Space. -/
def isBlank (c : Char) : Bool :=
  let n := c.toNat
  (9 ≤ n && n ≤ 13) || n == 0x20 || n == 0x85 || n == 0xA0 || n == 0x1680 ||
    (0x2000 ≤ n && n ≤ 0x200A) || n == 0x2028 || n == 0x2029 || n == 0x202F ||
    n == 0x205F || n == 0x3000

/-- A blank or an information separator. -/
def isSpacing (c : Char) : Bool :=
  isBlank c || (0x1C ≤ c.toNat && c.toNat ≤ 0x1F)

/-- Every blank is among the characters that are taken off the ends of a number or of a
name. -/
theorem isSpacing_of_isBlank {c : Char} (h : isBlank c) : isSpacing c := by
  simp [isSpacing, h]

/-- Drops the characters of a class from both ends. -/
def trim (p : Char → Bool) (cs : List Char) : List Char :=
  ((cs.dropWhile p).reverse.dropWhile p).reverse

/-- There is nothing to take off the empty text. -/
@[simp] theorem trim_nil (p : Char → Bool) : trim p [] = [] := rfl

/-- Drops the characters of a class from the right end. -/
def trimRight (p : Char → Bool) (cs : List Char) : List Char :=
  (cs.reverse.dropWhile p).reverse

/-- The pieces of a text between the occurrences of a separator; one more than
there are separators. -/
def split (sep : Char) : List Char → List (List Char)
  | [] => [[]]
  | c :: cs =>
    if c = sep then [] :: split sep cs
    else
      match split sep cs with
      | [] => [[c]]
      | piece :: pieces => (c :: piece) :: pieces

/-- A text without a separator is one piece, so there is always a piece. -/
theorem split_ne_nil (sep : Char) (cs : List Char) : split sep cs ≠ [] := by
  cases cs with
  | nil => simp [split]
  | cons c cs =>
    simp only [split]
    split
    · simp
    · split <;> simp

/-- The pieces, written one after the other with the separator between them. -/
def join (sep : List Char) : List (List Char) → List Char
  | [] => []
  | [piece] => piece
  | piece :: pieces => piece ++ sep ++ join sep pieces

/-- `a–z` for `A–Z`; every other character stands for itself. -/
def lowerAscii (c : Char) : Char :=
  if 'A' ≤ c ∧ c ≤ 'Z' then Char.ofNat (c.toNat + 32) else c

/-- The word is spelled with ASCII letters, in any case. -/
def spells (word : String) (s : String) : Bool :=
  s.toList.map lowerAscii == word.toList

end Text
end BareMetal
