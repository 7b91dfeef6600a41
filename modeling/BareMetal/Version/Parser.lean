/-
# Reading versions

A version may stand between spacing and is read without regard to case:

    v? (epoch !)? number (. number)* pre? post? dev? (+ local)?

| part | form |
| --- | --- |
| pre | `sep? (alpha, a, beta, b, preview, pre, c, rc) sep? number?` |
| post | `- number`, or `sep? (post, rev, r) sep? number?` |
| dev | `sep? dev sep? number?` |
| local | words of letters and digits with a `sep` between two |

A `sep` is one of `-`, `_`, `.`; an absent number is zero; `c`, `pre` and
`preview` are spellings of `rc`. No part begins with what the part before it could
still take, so each part takes as much as it can.

Letters and digits are ASCII. This is narrower than a match without regard to case
over all of Unicode, which would also take U+0130 and U+0131 for an `i`, U+017F for an
`s` and U+212A for a `k`: a text with one of these four is no version here.
-/

import BareMetal.Text.Blank
import BareMetal.Version.Basic
import BareMetal.Number.Numeral

namespace BareMetal
namespace Version

/-- What follows a word in front of a text, without regard to the case of ASCII
letters; none of the four letters beyond ASCII stands for another. -/
def dropWord? : (word : List Char) → List Char → Option (List Char)
  | [], cs => some cs
  | w :: ws, c :: cs => if Text.lowerAscii c = w then dropWord? ws cs else none
  | _ :: _, [] => none

/-- What follows the first of some words that is in front of a text, and what
that word stands for. -/
def dropAnyWord? {α : Type} : List (String × α) → List Char → Option (α × List Char)
  | [], _ => none
  | (word, meaning) :: words, cs =>
    match dropWord? word.toList cs with
    | some rest => some (meaning, rest)
    | none => dropAnyWord? words cs

/-- A separator between parts. -/
def isSeparator (c : Char) : Bool := c == '-' || c == '_' || c == '.'

/-- Drops a separator in front, if there is one. -/
def dropSeparator : List Char → List Char
  | c :: cs => if isSeparator c then cs else c :: cs
  | [] => []

/-- The digits in front, and what follows them. -/
def takeDigits (cs : List Char) : List Char × List Char :=
  (cs.takeWhile Char.isDigit, cs.dropWhile Char.isDigit)

/-- A part that begins with one of some words: what the word stands for and the
digits behind it. -/
def takeLettered {α : Type} (words : List (String × α)) (cs : List Char) :
    Option ((α × List Char) × List Char) :=
  match dropAnyWord? words (dropSeparator cs) with
  | some (meaning, rest) =>
    let (digits, rest) := takeDigits (dropSeparator rest)
    some ((meaning, digits), rest)
  | none => none

/-- The words of the pre-release. -/
def stageWords : List (String × Stage) :=
  [("alpha", .alpha), ("a", .alpha), ("beta", .beta), ("b", .beta), ("preview", .candidate),
    ("pre", .candidate), ("c", .candidate), ("rc", .candidate)]

/-- The words of the post-release. -/
def postWords : List (String × Unit) := [("post", ()), ("rev", ()), ("r", ())]

/-- The word of the development number. -/
def devWords : List (String × Unit) := [("dev", ())]

/-- An optional part: what it holds, if it is there, and what follows. -/
def optional {α : Type} (part : List Char → Option (α × List Char)) (cs : List Char) :
    Option α × List Char :=
  match part cs with
  | some (v, rest) => (some v, rest)
  | none => (none, cs)

/-- The digits of a post-release, which may be written without its word. -/
def takePost (cs : List Char) : Option (List Char × List Char) :=
  let lettered := (takeLettered postWords cs).map fun r => (r.1.2, r.2)
  match cs with
  | '-' :: rest =>
    match takeDigits rest with
    | ([], _) => lettered
    | (digits, rest) => some (digits, rest)
  | _ => lettered

/-- The numbers of a release: the first one, and the rest as long as a point and
a digit follow. -/
def takeRelease : List Char → List (List Char) × List Char
  | [] => ([[]], [])
  | c :: cs =>
    if c.isDigit then
      match takeRelease cs with
      | (ds :: more, rest) => ((c :: ds) :: more, rest)
      | ([], rest) => ([[c]], rest)
    else if c = '.' then
      match cs with
      | d :: _ =>
        if d.isDigit then
          let (more, rest) := takeRelease cs
          ([] :: more, rest)
        else ([[]], c :: cs)
      | [] => ([[]], c :: cs)
    else ([[]], c :: cs)

/-- The words of a local part that takes the whole text. They are of ASCII letters and
digits, without the four letters beyond ASCII. -/
def localWords? (cs : List Char) : Option (List (List Char)) :=
  let words := Text.split '.' (cs.map fun c => if isSeparator c then '.' else c)
  if words.all fun w => !w.isEmpty && w.all Char.isAlphanum then some words else none

/-- The words of the local part, or none at the end of the text. -/
def localPart? : List Char → Option (List (List Char))
  | [] => some []
  | '+' :: cs => localWords? cs
  | _ => none

/-- A version as it is spelled: its numbers are still rows of digits. -/
structure Spelling where
  epoch : Option (List Char)
  release : List (List Char)
  pre : Option (Stage × List Char)
  post : Option (List Char)
  dev : Option (List Char)
  locals : List (List Char)

/-- The epoch in front, if there is one, and what follows it. -/
def takeEpoch (cs : List Char) : Option (List Char) × List Char :=
  match takeDigits cs with
  | (d :: ds, '!' :: rest) => (some (d :: ds), rest)
  | _ => (none, cs)

/-- How a text spells a version. -/
def spelling? (text : List Char) : Option Spelling :=
  let cs := Text.trim Text.isSpacing text
  let cs := (dropWord? ['v'] cs).getD cs
  let (epoch, cs) := takeEpoch cs
  let (release, cs) := takeRelease cs
  if release.any List.isEmpty then none
  else
    let (pre, cs) := optional (takeLettered stageWords) cs
    let (post, cs) := optional takePost cs
    let (dev, cs) := optional (takeLettered devWords) cs
    match localPart? cs with
    | some locals => some { epoch, release, pre, post, dev := dev.map (·.2), locals }
    | none => none

namespace Spelling

/-- The rows of digits, from left to right. -/
def numerals (s : Spelling) : List (List Char) :=
  s.epoch.toList ++ s.release ++ (s.pre.map (·.2)).toList ++ s.post.toList ++ s.dev.toList ++
    s.locals.filter (·.all Char.isDigit)

/-- The segment that a local word spells. -/
def segment (word : List Char) : Segment :=
  if word.all Char.isDigit then .number (Numeral.ofDigits word)
  else .word (String.ofList (word.map Text.lowerAscii))

/-- The version that is spelled. -/
def version (s : Spelling) : Version where
  epoch := (s.epoch.map Numeral.ofDigits).getD 0
  release := s.release.map Numeral.ofDigits
  pre := s.pre.map fun p => (p.1, Numeral.ofDigits p.2)
  post := s.post.map Numeral.ofDigits
  dev := s.dev.map Numeral.ofDigits
  locals := s.locals.map segment

end Spelling

/-- Why a text is not a version. -/
inductive ParseFault where
  | notAVersion
  /-- A number has more digits than a numeral may have. -/
  | longNumeral (digits : Nat)
deriving DecidableEq, Repr

/-- The version that a text spells. -/
def parse (text : String) : Except ParseFault Version :=
  match spelling? text.toList with
  | none => .error .notAVersion
  | some s =>
    match s.numerals.find? (Numeral.digitLimit < ·.length) with
    | some digits => .error (.longNumeral digits.length)
    | none => .ok s.version

end Version
end BareMetal
