/-
# Texts in JSON, there and back

Each character of a text is written in such a way that it is read alone: what is read from it and
from what follows it is the character, and what is read from the rest
(`Json.scanText_renderChar`). So a text is read back up to its closing mark
(`Json.scanText_flatMap`).

| character | written as | read by |
| --- | --- | --- |
| `"`, `\`, the five with a letter | a backslash and one character | `scanText_short` |
| U+0020 to U+007E | itself | `scanText_plain` |
| below U+10000 | one escape of four digits | `scanText_unicode` |
| the others | two such escapes | `scanText_pair` |

An escape of four digits is looked at together with what follows it, since it may be the first half
of a pair. The halves of pairs are no characters, so this never happens to a whole one.
-/

import BareMetal.Json.Parser
import BareMetal.Json.Printer
import Mathlib.Data.List.Basic

namespace BareMetal
namespace Json

section Digits

/-- The value of a hexadecimal digit that was written is the number that it was written for. -/
theorem hexValue?_hexDigit {n : ℕ} (h : n < 16) : hexValue? (Text.hexDigit n) = some n := by
  have all : ∀ k < 16, hexValue? (Text.hexDigit k) = some k := by decide
  exact all n h

/-- Four digits are read back. -/
theorem exists_hex_eq {n : ℕ} (h : n < 0x10000) :
    ∃ a b c d, Text.hex 4 n = [a, b, c, d] ∧ hexQuad? a b c d = some n := by
  refine ⟨_, _, _, _, rfl, ?_⟩
  rw [hexQuad?, hexValue?_hexDigit (Nat.mod_lt _ (by decide)),
    hexValue?_hexDigit (Nat.mod_lt _ (by decide)), hexValue?_hexDigit (Nat.mod_lt _ (by decide)),
    hexValue?_hexDigit (Nat.mod_lt _ (by decide))]
  refine congrArg some ?_
  omega

end Digits

section Characters

variable (opening : ℕ) {cs : List Char}

/-- An escape of one letter stands for its character. -/
theorem scanText_short {letter c : Char} (short : shortEscape? letter = some c)
    (other : letter ≠ 'u') :
    scanText opening ('\\' :: letter :: cs) = consChar c (scanText opening cs) := by
  rw [scanText, short]
  all_goals simp [other]

/-- A character that needs no escape stands for itself. -/
theorem scanText_plain {c : Char} (quote : c ≠ '"') (backslash : c ≠ '\\')
    (high : 0x20 ≤ c.toNat) : scanText opening (c :: cs) = consChar c (scanText opening cs) := by
  rw [scanText, if_neg (Nat.not_lt.2 high)]
  all_goals simp [quote, backslash]

variable {a b c d : Char} {n : ℕ} (quad : hexQuad? a b c d = some n)
include quad

/-- What follows an escape does not count unless the escape is the first half of a pair. -/
theorem scanText_unicode (whole : ¬ isHighSurrogate n) (some : cs ≠ []) :
    scanText opening ('\\' :: 'u' :: a :: b :: c :: d :: cs) =
      consChar (ofCode n) (scanText opening cs) := by
  obtain ⟨e, rest, rfl⟩ := List.exists_cons_of_ne_nil some
  by_cases more : ∃ a' b' c' d' f rest', rest = 'u' :: a' :: b' :: c' :: d' :: f :: rest' ∧ e = '\\'
  · obtain ⟨a', b', c', d', f, rest', rfl, rfl⟩ := more
    rw [scanText, quad]
    dsimp only
    rw [if_neg whole]
  · rw [scanText, quad]
    rintro a' b' c' d' f rest' rfl rfl
    exact more ⟨a', b', c', d', f, rest', rfl, rfl⟩

/-- Two escapes that are halves of a pair stand for one character. -/
theorem scanText_pair {a' b' c' d' : Char} {m : ℕ} (quad' : hexQuad? a' b' c' d' = some m)
    (high : isHighSurrogate n) (low : isLowSurrogate m) (some : cs ≠ []) :
    scanText opening
        ('\\' :: 'u' :: a :: b :: c :: d :: '\\' :: 'u' :: a' :: b' :: c' :: d' :: cs) =
      consChar (ofPair n m) (scanText opening cs) := by
  obtain ⟨e, rest, rfl⟩ := List.exists_cons_of_ne_nil some
  rw [scanText, quad]
  dsimp only
  rw [if_pos high, quad']
  exact if_pos low

end Characters

section Codes

variable (c : Char)

/-- A character has no code between those of the halves of a pair. -/
theorem not_surrogate : c.toNat < 0xD800 ∨ 0xDFFF < c.toNat ∧ c.toNat < 0x110000 := c.valid

/-- The code of a character is not the first half of a pair. -/
theorem not_isHighSurrogate : ¬ isHighSurrogate c.toNat := by
  have whole := not_surrogate c
  simp only [isHighSurrogate, Bool.and_eq_true, decide_eq_true_eq]
  omega

/-- The code of a character stands for this character. -/
theorem ofCode_toNat : ofCode c.toNat = c := by
  have whole := not_surrogate c
  have neither : ¬ (isHighSurrogate c.toNat || isLowSurrogate c.toNat) := by
    simp only [isHighSurrogate, isLowSurrogate, Bool.or_eq_true, Bool.and_eq_true,
      decide_eq_true_eq]
    omega
  rw [ofCode, if_neg neither, Char.ofNat_toNat]

/-- The two halves of a character from U+10000 on. -/
theorem pair_of_toNat (above : 0x10000 ≤ c.toNat) :
    let high := 0xD800 + (c.toNat - 0x10000) / 0x400
    let low := 0xDC00 + (c.toNat - 0x10000) % 0x400
    isHighSurrogate high ∧ isLowSurrogate low ∧ ofPair high low = c := by
  have whole := not_surrogate c
  intro high low
  refine ⟨?_, ?_, ?_⟩
  · simp only [isHighSurrogate, high, Bool.and_eq_true, decide_eq_true_eq]
    omega
  · simp only [isLowSurrogate, low, Bool.and_eq_true, decide_eq_true_eq]
    omega
  · have code : 0x10000 + (high - 0xD800) * 0x400 + (low - 0xDC00) = c.toNat := by
      simp only [high, low]
      omega
    rw [ofPair, code, Char.ofNat_toNat]

end Codes

/-- A character that is written is read back, whatever follows it. -/
theorem scanText_renderChar (opening : ℕ) {cs : List Char} (c : Char) (some : cs ≠ []) :
    scanText opening (renderChar c ++ cs) = consChar c (scanText opening cs) := by
  rw [renderChar]
  split_ifs with marked plain newline ret tab back feed below
  · rcases marked with rfl | rfl <;> exact scanText_short opening rfl (by decide)
  · exact scanText_plain opening (fun h => marked (.inl h)) (fun h => marked (.inr h)) plain.1
  · exact scanText_short opening (newline ▸ rfl) (by decide)
  · exact scanText_short opening (ret ▸ rfl) (by decide)
  · exact scanText_short opening (tab ▸ rfl) (by decide)
  · exact scanText_short opening (by rw [← Char.ofNat_toNat c, back]; rfl) (by decide)
  · exact scanText_short opening (by rw [← Char.ofNat_toNat c, feed]; rfl) (by decide)
  · obtain ⟨_, _, _, _, hex, quad⟩ := exists_hex_eq below
    have read := scanText_unicode opening quad (not_isHighSurrogate c) some
    rw [ofCode_toNat] at read
    rwa [unicodeEscape, hex]
  · obtain ⟨high, low, whole⟩ := pair_of_toNat c (Nat.not_lt.1 below)
    have bounds := not_surrogate c
    obtain ⟨_, _, _, _, hex, quad⟩ :=
      exists_hex_eq (n := 0xD800 + (c.toNat - 0x10000) / 0x400) (by omega)
    obtain ⟨_, _, _, _, hex', quad'⟩ :=
      exists_hex_eq (n := 0xDC00 + (c.toNat - 0x10000) % 0x400) (by omega)
    have read := scanText_pair opening quad quad' high low some
    rw [whole] at read
    rwa [unicodeEscape, unicodeEscape, hex, hex']

/-- A text is read back up to its closing mark. -/
theorem scanText_flatMap (opening : ℕ) (cs rest : List Char) :
    scanText opening (cs.flatMap renderChar ++ '"' :: rest) = .ok (cs, rest) := by
  induction cs with
  | nil => rfl
  | cons c cs ih =>
    rw [List.flatMap_cons, List.append_assoc, scanText_renderChar opening c (by simp), ih]
    rfl

end Json
end BareMetal
