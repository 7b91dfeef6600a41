/-
# Reading UTF-8

Bytes that are not UTF-8 are replaced by U+FFFD, one for each longest piece that
begins a well-formed sequence, or for a single byte that begins none. The
second byte of a sequence is bounded by the first:

| first byte | second byte | further bytes |
| --- | --- | ---: |
| C2–DF | 80–BF | 0 |
| E0 | A0–BF | 1 |
| E1–EC, EE, EF | 80–BF | 1 |
| ED | 80–9F | 1 |
| F0 | 90–BF | 2 |
| F1–F3 | 80–BF | 2 |
| F4 | 80–8F | 2 |
-/

namespace BareMetal
namespace Text

/-- U+FFFD, which stands for what could not be read. -/
def replacement : Char := Char.ofNat 0xFFFD

/-- For the first byte of a sequence of two or more: the bits that it holds, the
bounds of the second byte, and how many bytes follow the second. -/
def sequenceStart? (b : UInt8) : Option (Nat × UInt8 × UInt8 × Nat) :=
  if 0xC2 ≤ b && b ≤ 0xDF then some (b.toNat - 0xC0, 0x80, 0xBF, 0)
  else if b == 0xE0 then some (0, 0xA0, 0xBF, 1)
  else if b == 0xED then some (0xD, 0x80, 0x9F, 1)
  else if 0xE1 ≤ b && b ≤ 0xEF then some (b.toNat - 0xE0, 0x80, 0xBF, 1)
  else if b == 0xF0 then some (0, 0x90, 0xBF, 2)
  else if 0xF1 ≤ b && b ≤ 0xF3 then some (b.toNat - 0xF0, 0x80, 0xBF, 2)
  else if b == 0xF4 then some (4, 0x80, 0x8F, 2)
  else none

/-- What has been read of the sequence at hand. -/
inductive Utf8State where
  /-- Between two sequences. -/
  | fresh
  /-- Inside one: the bits so far, the bounds of the next byte, and how many
  bytes follow the next. -/
  | inside (bits : Nat) (low high : UInt8) (more : Nat)

/-- The first byte of a sequence: the characters that it completes and the state
after it. -/
def Utf8State.start (b : UInt8) : List Char × Utf8State :=
  if b < 0x80 then ([Char.ofNat b.toNat], .fresh)
  else
    match sequenceStart? b with
    | some (bits, low, high, more) => ([], .inside bits low high more)
    | none => ([replacement], .fresh)

/-- One byte: the characters that it completes and the state after it. -/
def Utf8State.step (b : UInt8) : Utf8State → List Char × Utf8State
  | .fresh => start b
  | .inside bits low high more =>
    if low ≤ b && b ≤ high then
      let bits := bits * 64 + (b.toNat - 0x80)
      match more with
      | 0 => ([Char.ofNat bits], .fresh)
      | more + 1 => ([], .inside bits 0x80 0xBF more)
    else
      let (cs, s) := start b
      (replacement :: cs, s)

/-- The characters of the rest of the bytes. -/
def Utf8State.run : Utf8State → List UInt8 → List Char
  | .fresh, [] => []
  | .inside .., [] => [replacement]
  | s, b :: bs =>
    let (cs, s) := s.step b
    cs ++ run s bs

/-- The text of a byte string, with U+FFFD for what is not UTF-8. -/
def readUtf8 (bs : List UInt8) : List Char :=
  Utf8State.fresh.run bs

end Text
end BareMetal
