/-
# Reading JSON

The grammar is that of JSON, with these extensions and rules.

* `NaN`, `Infinity` and `-Infinity` are numbers.
* A number without a fraction and an exponent is a whole number, written with a
  limited number of digits; every other number is a floating-point number.
* Of an entry that a map repeats the last value counts, at the place of the
  first.
* A text holds no control character below U+0020. An escape that names one half
  of a surrogate pair without the other stands for U+FFFD, since a text here is made
  of characters: two texts, or two names of a map, that differ in such a half only
  are the same text, and the entries of the two names are one.

The first fault from left to right is reported with its line, column and offset,
counted in characters. Positions are carried as the number of characters left,
so that the reader only ever looks at what is left.
-/

import BareMetal.Datum
import BareMetal.Number.Numeral

namespace BareMetal
namespace Json

/-- What is wrong with a text that is not JSON. -/
inductive Problem where
  | byteOrderMark
  | value
  | name
  | colon
  | comma
  | extra
  | unterminated
  | control
  | escape
  | unicodeEscape
deriving DecidableEq, Repr

/-- The wording of a problem. -/
def Problem.message : Problem → String
  | byteOrderMark => "Unexpected UTF-8 BOM (decode using utf-8-sig)"
  | value => "Expecting value"
  | name => "Expecting property name enclosed in double quotes"
  | colon => "Expecting ':' delimiter"
  | comma => "Expecting ',' delimiter"
  | extra => "Extra data"
  | unterminated => "Unterminated string starting at"
  | control => "Invalid control character at"
  | escape => "Invalid \\escape"
  | unicodeEscape => "Invalid \\uXXXX escape"

/-- Why reading stopped. -/
inductive Stop where
  /-- A problem, with the number of characters left where it is. -/
  | malformed (problem : Problem) (left : Nat)
  /-- A whole number with more digits than the limit. -/
  | longNumeral (digits : Nat)
deriving DecidableEq, Repr

/-- The white space between the parts of a JSON text. -/
def isGap (c : Char) : Bool := c == ' ' || c == '\t' || c == '\n' || c == '\r'

/-- Drops the white space in front. -/
def skipGap (cs : List Char) : List Char := cs.dropWhile isGap

/-- The value of a hexadecimal digit. -/
def hexValue? (c : Char) : Option Nat :=
  if '0' ≤ c ∧ c ≤ '9' then some (c.toNat - 48)
  else if 'a' ≤ c ∧ c ≤ 'f' then some (c.toNat - 87)
  else if 'A' ≤ c ∧ c ≤ 'F' then some (c.toNat - 55)
  else none

/-- The value of four hexadecimal digits. -/
def hexQuad? (a b c d : Char) : Option Nat := do
  let a ← hexValue? a
  let b ← hexValue? b
  let c ← hexValue? c
  let d ← hexValue? d
  return ((a * 16 + b) * 16 + c) * 16 + d

/-- The first half of a surrogate pair. -/
def isHighSurrogate (n : Nat) : Bool := 0xD800 ≤ n && n ≤ 0xDBFF

/-- The second half of a surrogate pair. -/
def isLowSurrogate (n : Nat) : Bool := 0xDC00 ≤ n && n ≤ 0xDFFF

/-- The character of a 16-bit code; U+FFFD for half of a pair, which no `Char` is. -/
def ofCode (n : Nat) : Char :=
  if isHighSurrogate n || isLowSurrogate n then Char.ofNat 0xFFFD else Char.ofNat n

/-- The character of a surrogate pair. -/
def ofPair (high low : Nat) : Char :=
  Char.ofNat (0x10000 + (high - 0xD800) * 0x400 + (low - 0xDC00))

/-- The character that a one-letter escape stands for. -/
def shortEscape? (c : Char) : Option Char :=
  if c = '"' || c = '\\' || c = '/' then some c
  else if c = 'b' then some '\x08'
  else if c = 'f' then some '\x0c'
  else if c = 'n' then some '\n'
  else if c = 'r' then some '\r'
  else if c = 't' then some '\t'
  else none

/-- Puts a character in front of the text read so far. -/
def consChar (c : Char) (r : Except Stop (List Char × List Char)) :
    Except Stop (List Char × List Char) :=
  match r with
  | .ok (text, rest) => .ok (c :: text, rest)
  | .error stop => .error stop

/-- The text up to the closing mark, and what follows it. `opening` is the number
of characters left at the opening mark. -/
def scanText (opening : Nat) : List Char → Except Stop (List Char × List Char)
  | [] => .error (.malformed .unterminated opening)
  | '"' :: rest => .ok ([], rest)
  | ['\\'] => .error (.malformed .unterminated opening)
  | '\\' :: 'u' :: a :: b :: c :: d :: '\\' :: 'u' :: a' :: b' :: c' :: d' :: f :: rest =>
    match hexQuad? a b c d with
    | none => .error (.malformed .unicodeEscape (rest.length + 12))
    | some n =>
      if isHighSurrogate n then
        match hexQuad? a' b' c' d' with
        | none => .error (.malformed .unicodeEscape (rest.length + 6))
        | some m =>
          if isLowSurrogate m then consChar (ofPair n m) (scanText opening (f :: rest))
          else
            consChar (ofCode n)
              (scanText opening ('\\' :: 'u' :: a' :: b' :: c' :: d' :: f :: rest))
      else
        consChar (ofCode n)
          (scanText opening ('\\' :: 'u' :: a' :: b' :: c' :: d' :: f :: rest))
  | '\\' :: 'u' :: a :: b :: c :: d :: e :: rest =>
    match hexQuad? a b c d with
    | none => .error (.malformed .unicodeEscape (rest.length + 6))
    | some n => consChar (ofCode n) (scanText opening (e :: rest))
  | '\\' :: 'u' :: rest => .error (.malformed .unicodeEscape (rest.length + 1))
  | '\\' :: c :: rest =>
    match shortEscape? c with
    | none => .error (.malformed .escape (rest.length + 2))
    | some c => consChar c (scanText opening rest)
  | c :: rest =>
    if c.toNat < 0x20 then .error (.malformed .control (rest.length + 1))
    else consChar c (scanText opening rest)

/-- The digits of a whole part in front, and what follows them: one `0`, or
digits that begin with another. -/
def scanWhole : List Char → Option (List Char × List Char)
  | '0' :: rest => some (['0'], rest)
  | cs =>
    match cs.takeWhile Char.isDigit with
    | [] => none
    | ds => some (ds, cs.dropWhile Char.isDigit)

/-- The digits of a fraction in front, if there is one, and what follows. -/
def scanFraction : List Char → Option (List Char × List Char)
  | '.' :: d :: rest =>
    if d.isDigit then
      some ((d :: rest).takeWhile Char.isDigit, (d :: rest).dropWhile Char.isDigit)
    else none
  | _ => none

/-- The exponent in front, if there is one, and what follows. -/
def scanExponent : List Char → Option (Int × List Char)
  | c :: rest =>
    if c = 'e' || c = 'E' then
      let (negative, cs) := Numeral.splitSign rest
      match cs.takeWhile Char.isDigit with
      | [] => none
      | ds =>
        let n : Int := Numeral.ofDigits ds
        some (if negative then -n else n, cs.dropWhile Char.isDigit)
    else none
  | [] => none

/-- The number in front, and what follows it. -/
def scanNumber (limit : Nat) (cs : List Char) : Except Stop (Datum × List Char) :=
  let (negative, body) :=
    match cs with
    | '-' :: rest => (true, rest)
    | _ => (false, cs)
  match scanWhole body with
  | none => .error (.malformed .value cs.length)
  | some (whole, rest) =>
    match scanFraction rest with
    | some (fraction, rest) =>
      match scanExponent rest with
      | some (e, rest) => .ok (.float (Numeral.ofParts negative whole fraction e), rest)
      | none => .ok (.float (Numeral.ofParts negative whole fraction 0), rest)
    | none =>
      match scanExponent rest with
      | some (e, rest) => .ok (.float (Numeral.ofParts negative whole [] e), rest)
      | none =>
        if limit < whole.length then .error (.longNumeral whole.length)
        else
          let n : Int := Numeral.ofDigits whole
          .ok (.int (if negative then -n else n), rest)

mutual

/-- The value in front, and what follows it. The fuel bounds the depth of the
recursion. -/
def scanValue (limit : Nat) : (fuel : Nat) → List Char → Except Stop (Datum × List Char)
  | 0, cs => .error (.malformed .value cs.length)
  | fuel + 1, cs =>
    match cs with
    | '"' :: rest =>
      match scanText cs.length rest with
      | .ok (text, rest) => .ok (.text (String.ofList text), rest)
      | .error stop => .error stop
    | '{' :: rest =>
      match skipGap rest with
      | '}' :: rest => .ok (.map [], rest)
      | rest =>
        match scanEntries limit fuel rest with
        | .ok (entries, rest) => .ok (.map (Entries.ofList entries), rest)
        | .error stop => .error stop
    | '[' :: rest =>
      match skipGap rest with
      | ']' :: rest => .ok (.list [], rest)
      | rest =>
        match scanItems limit fuel rest with
        | .ok (items, rest) => .ok (.list items, rest)
        | .error stop => .error stop
    | 'n' :: 'u' :: 'l' :: 'l' :: rest => .ok (.null, rest)
    | 't' :: 'r' :: 'u' :: 'e' :: rest => .ok (.bool true, rest)
    | 'f' :: 'a' :: 'l' :: 's' :: 'e' :: rest => .ok (.bool false, rest)
    | 'N' :: 'a' :: 'N' :: rest => .ok (.float .nan, rest)
    | 'I' :: 'n' :: 'f' :: 'i' :: 'n' :: 'i' :: 't' :: 'y' :: rest =>
      .ok (.float (.infinite false), rest)
    | '-' :: 'I' :: 'n' :: 'f' :: 'i' :: 'n' :: 'i' :: 't' :: 'y' :: rest =>
      .ok (.float (.infinite true), rest)
    | _ => scanNumber limit cs

/-- The items up to the end of a list, and what follows it. -/
def scanItems (limit : Nat) : (fuel : Nat) → List Char → Except Stop (List Datum × List Char)
  | 0, cs => .error (.malformed .value cs.length)
  | fuel + 1, cs =>
    match scanValue limit fuel cs with
    | .error stop => .error stop
    | .ok (item, rest) =>
      match skipGap rest with
      | ']' :: rest => .ok ([item], rest)
      | ',' :: rest =>
        match scanItems limit fuel (skipGap rest) with
        | .ok (items, rest) => .ok (item :: items, rest)
        | .error stop => .error stop
      | rest => .error (.malformed .comma rest.length)

/-- The entries up to the end of a map, and what follows it. -/
def scanEntries (limit : Nat) :
    (fuel : Nat) → List Char → Except Stop (List (String × Datum) × List Char)
  | 0, cs => .error (.malformed .name cs.length)
  | fuel + 1, cs =>
    match cs with
    | '"' :: rest =>
      match scanText cs.length rest with
      | .error stop => .error stop
      | .ok (name, rest) =>
        match skipGap rest with
        | ':' :: rest =>
          match scanValue limit fuel (skipGap rest) with
          | .error stop => .error stop
          | .ok (value, rest) =>
            let entry := (String.ofList name, value)
            match skipGap rest with
            | '}' :: rest => .ok ([entry], rest)
            | ',' :: rest =>
              match scanEntries limit fuel (skipGap rest) with
              | .ok (entries, rest) => .ok (entry :: entries, rest)
              | .error stop => .error stop
            | rest => .error (.malformed .comma rest.length)
        | rest => .error (.malformed .colon rest.length)
    | _ => .error (.malformed .name cs.length)

end

/-- The value that a text holds. Each level of a value takes at most two steps
for a character, so twice the length is fuel enough. -/
def scan (limit : Nat) (cs : List Char) : Except Stop Datum :=
  if cs.head? = some (Char.ofNat 0xFEFF) then .error (.malformed .byteOrderMark cs.length)
  else
    match scanValue limit (2 * cs.length + 2) (skipGap cs) with
    | .error stop => .error stop
    | .ok (value, rest) =>
      match skipGap rest with
      | [] => .ok value
      | rest => .error (.malformed .extra rest.length)

/-- Why a text could not be read. -/
inductive Fault where
  /-- A problem at a line and a column, counted from one, and an offset. -/
  | malformed (problem : Problem) (line column offset : Nat)
  | longNumeral (digits : Nat)
deriving DecidableEq, Repr

/-- The wording for a whole number with too many digits. -/
def longNumeralMessage (digits : Nat) : String :=
  s!"Exceeds the limit ({Numeral.digitLimit} digits) for integer string conversion: value has {digits} digits; use sys.set_int_max_str_digits() to increase the limit"

/-- The wording of a fault. -/
def Fault.message : Fault → String
  | malformed problem line column offset =>
    s!"{problem.message}: line {line} column {column} (char {offset})"
  | longNumeral digits => longNumeralMessage digits

/-- A stop as a fault in the whole text. -/
def Stop.locate (cs : List Char) : Stop → Fault
  | malformed problem left =>
    let offset := cs.length - left
    let before := cs.take offset
    let column := (before.reverse.takeWhile (· ≠ '\n')).length + 1
    .malformed problem (before.count '\n' + 1) column offset
  | longNumeral digits => .longNumeral digits

/-- Reads a JSON text whose whole numbers have at most `limit` digits. -/
def parse (text : List Char) (limit : Nat := Numeral.digitLimit) : Except Fault Datum :=
  (scan limit text).mapError (·.locate text)

end Json
end BareMetal
