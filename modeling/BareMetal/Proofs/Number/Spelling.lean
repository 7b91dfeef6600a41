/-
# Numerals of one whole number

The decimal text of a whole number is a numeral of it if it has at most 4300 digits, and stands
for no whole number otherwise (`Numeral.int?_toString`). As a number it stands for the nearest
value, which for so long a text is infinite (`Numeral.float?_toString`). With `.0` behind it is no
numeral of a whole number, but stands for the nearest value all the same
(`Numeral.int?_toString_point`, `Numeral.float?_toString_point`). Blanks around a numeral do not
count.

All four are read off the text in the same steps: the sign is split off (`splitSign_signed`), no
underscore is dropped, and digits are left, with `.0` behind them or without.
-/

import BareMetal.Number.Decimal
import BareMetal.Proofs.Text.Trim
import Mathlib

namespace BareMetal
namespace Numeral

/-- The digits have the codes from 48 to 57. -/
theorem toNat_of_isDigit {c : Char} (h : c.isDigit) : 48 ≤ c.toNat ∧ c.toNat ≤ 57 := by
  simpa [Char.isDigit, UInt32.le_iff_toNat_le] using h

/-- A character of the decimal texts: a digit, a minus sign or a point. -/
def IsDecimal (c : Char) : Prop := c.isDigit ∨ c = '-' ∨ c = '.'

/-- A character of a decimal numeral is no digit of another script, so it stays as it is. -/
theorem asciiDigit_eq_self {c : Char} (h : IsDecimal c) : Text.asciiDigit c = c := by
  rcases h with digit | rfl | rfl
  · obtain ⟨low, high⟩ := toNat_of_isDigit digit
    have first : Text.digit? c = some (c.toNat - 48) := by
      rw [Text.digit?, Text.zeros, List.find?_cons_of_pos (by simp; omega)]
    rw [Text.asciiDigit, first]
    dsimp only
    rw [Nat.add_sub_cancel' low, Char.ofNat_toNat]
  · decide
  · decide

/-- No character of a decimal numeral is taken off its ends. -/
theorem not_isSpacing {c : Char} (h : IsDecimal c) : ¬ Text.isSpacing c := by
  rcases h with digit | rfl | rfl
  · obtain ⟨low, high⟩ := toNat_of_isDigit digit
    simp [Text.isSpacing, Text.isBlank]
    omega
  · decide
  · decide

/-- No character of a decimal numeral is a blank. -/
theorem not_isBlank {c : Char} (h : IsDecimal c) : ¬ Text.isBlank c := fun blank =>
  not_isSpacing h (Text.isSpacing_of_isBlank blank)

/-- A decimal text is plain already. -/
theorem plain_eq_self {cs : List Char} (h : ∀ c ∈ cs, IsDecimal c) : plain cs = cs := by
  rw [plain, Text.trim_eq_self_of_forall fun c hc => not_isBlank (h c hc)]
  exact (List.map_congr_left fun c hc => asciiDigit_eq_self (h c hc)).trans (List.map_id cs)

/-- Without underscores there is nothing to drop. -/
theorem dropUnderscores?_eq_self {cs : List Char} (h : '_' ∉ cs) (afterDigit : Bool) :
    dropUnderscores? afterDigit cs = some cs := by
  induction cs generalizing afterDigit with
  | nil => rfl
  | cons c cs ih =>
    rw [List.mem_cons, not_or] at h
    rw [dropUnderscores?, if_neg (Ne.symm h.1), ih h.2]
    · rfl
    · rintro _ _ rfl
      exact absurd rfl h.1

/-- What begins with no sign has none. -/
theorem splitSign_of_ne {c : Char} {cs : List Char} (minus : c ≠ '-') (plus : c ≠ '+') :
    splitSign (c :: cs) = (false, c :: cs) := by
  unfold splitSign
  split
  · next first => exact absurd (List.cons.inj first).1 minus
  · next first => exact absurd (List.cons.inj first).1 plus
  · rfl

/-- A numeral that begins with a digit has no sign. -/
theorem splitSign_of_isDigit {c : Char} {cs : List Char} (h : c.isDigit) :
    splitSign (c :: cs) = (false, c :: cs) :=
  splitSign_of_ne (by rintro rfl; exact absurd h (by decide))
    (by rintro rfl; exact absurd h (by decide))

/-- Writing a text in small letters leaves its digits as they are. -/
theorem lowerAscii_of_isDigit {c : Char} (h : c.isDigit) : Text.lowerAscii c = c := by
  obtain ⟨-, high⟩ := toNat_of_isDigit h
  have below : ¬ 'A' ≤ c := by
    rw [Char.le_def, UInt32.le_iff_toNat_le]
    exact Nat.not_le_of_lt (Nat.lt_of_le_of_lt high (by decide))
  rw [Text.lowerAscii, if_neg fun h => below h.1]

section Digits

variable (n : ℕ)

/-- The digits of a whole number, in order. -/
abbrev digits : List Char := Nat.toDigits 10 n

/-- The digits of a number are digits. -/
theorem isDigit_of_mem_digits : ∀ c ∈ digits n, c.isDigit := fun _ hc =>
  Nat.isDigit_of_mem_toDigits (by decide) (by decide) hc

/-- A number has at least one digit. -/
theorem exists_digits_eq_cons : ∃ c cs, digits n = c :: cs ∧ c.isDigit := by
  cases hd : digits n with
  | nil => exact absurd hd Nat.toDigits_ne_nil
  | cons c cs => exact ⟨c, cs, rfl, isDigit_of_mem_digits n c (hd ▸ List.mem_cons_self ..)⟩

/-- The digits of a number stand for it. -/
theorem ofDigits_digits : ofDigits (digits n) = n :=
  Nat.ofDigitChars_toDigits (by decide) (by decide)

/-- A zero behind the digits of a number multiplies it by ten. -/
theorem ofDigits_digits_zero : ofDigits (digits n ++ ['0']) = n * 10 := by
  rw [ofDigits, Nat.ofDigitChars_append, ← ofDigits, ofDigits_digits, Nat.ofDigitChars_cons,
    Nat.ofDigitChars_nil, Nat.mul_comm]
  rfl

/-- The point is looked for behind the digits in front of it. -/
theorem splitPoint_row {row : List Char} (numeral : ∀ d ∈ row, d.isDigit) (tail : List Char) :
    splitPoint (row ++ tail) = (row ++ (splitPoint tail).1, (splitPoint tail).2) := by
  rw [splitPoint, splitPoint, List.takeWhile_append_of_pos numeral,
    List.dropWhile_append_of_pos numeral]
  split <;> rfl

/-- The value of a row of digits has no more digits than the row. -/
theorem ofDigits_lt {ds : List Char} (numeral : ∀ d ∈ ds, d.isDigit) :
    ofDigits ds < 10 ^ ds.length := by
  induction ds using List.reverseRecOn with
  | nil => exact Nat.one_pos
  | append_singleton ds d ih =>
    obtain ⟨-, high⟩ := toNat_of_isDigit (numeral d (by simp))
    have front := ih fun c hc => numeral c (List.mem_append_left _ hc)
    have zero : '0'.toNat = 48 := rfl
    rw [ofDigits, Nat.ofDigitChars_append, ← ofDigits, Nat.ofDigitChars_cons,
      Nat.ofDigitChars_nil, List.length_append, List.length_singleton, Nat.pow_succ, zero]
    omega

/-- The digits of a whole number begin with a zero only if they are that zero. -/
theorem eq_nil_of_digits_eq_cons {n : ℕ} {cs : List Char} (h : digits n = '0' :: cs) :
    cs = [] := by
  by_contra some
  have numeral : ∀ d ∈ cs, d.isDigit := fun d hd =>
    isDigit_of_mem_digits n d (h ▸ List.mem_cons_of_mem _ hd)
  have value : n = ofDigits cs := by
    rw [← ofDigits_digits n, h, ofDigits, Nat.ofDigitChars_cons]
    rfl
  have below := value ▸ ofDigits_lt numeral
  rw [← Nat.length_toDigits_le_iff (by decide) (List.length_pos_iff.2 some), ← digits, h] at below
  exact absurd below (Nat.not_succ_le_self _)

/-- A power of ten has more digits than its exponent says. -/
theorem lt_decimalLength_pow (k : ℕ) : k < Number.decimalLength ((10 : ℤ) ^ k).natAbs := by
  rw [Int.natAbs_pow, ← Nat.not_le, Number.decimalLength]
  rcases Nat.eq_zero_or_pos k with rfl | pos
  · exact Nat.not_le_of_lt Nat.length_toDigits_pos
  · rw [Nat.length_toDigits_le_iff (by decide) pos]
    exact Nat.lt_irrefl _

/-- The first whole number that is too long to be written. -/
theorem not_isWritable_pow : ¬ IsWritable (10 ^ digitLimit) :=
  Nat.not_le_of_lt (lt_decimalLength_pow digitLimit)

end Digits

section Signed

variable (n : ℤ) (tail : List Char)

/-- A number is written as a minus sign, if it is below zero, and its digits. -/
theorem toList_toString :
    (toString n).toList = (if n < 0 then ['-'] else []) ++ digits n.natAbs := by
  rw [Int.toString_eq_repr]
  cases n with
  | ofNat n => exact Nat.toList_repr
  | negSucc n =>
    rw [if_pos (Int.negSucc_lt_zero n), Int.repr, String.toList_append, Nat.toList_repr]
    rfl

/-- The sign of a written number is told from its digits. -/
theorem splitSign_signed :
    splitSign ((toString n).toList ++ tail) = (decide (n < 0), digits n.natAbs ++ tail) := by
  rw [toList_toString]
  by_cases negative : n < 0
  · rw [if_pos negative, decide_eq_true negative]
    rfl
  · rw [if_neg negative, decide_eq_false negative, List.nil_append]
    obtain ⟨c, cs, hd, digit⟩ := exists_digits_eq_cons n.natAbs
    rw [hd]
    exact splitSign_of_isDigit digit

/-- A written number and a decimal tail have only characters of decimal numerals. -/
theorem isDecimal_of_mem_signed (decimal : ∀ c ∈ tail, IsDecimal c) :
    ∀ c ∈ (toString n).toList ++ tail, IsDecimal c := by
  intro c hc
  rw [toList_toString] at hc
  rcases List.mem_append.1 hc with hc | hc
  · rcases List.mem_append.1 hc with hc | hc
    · split at hc
      · exact .inr (.inl (List.mem_singleton.1 hc))
      · cases hc
    · exact .inl (isDigit_of_mem_digits _ c hc)
  · exact decimal c hc

/-- What every numeral of the number begins with: its sign and its digits, as they are. -/
theorem plain_signed (decimal : ∀ c ∈ tail, IsDecimal c) :
    splitSign (plain ((toString n).toList ++ tail)) =
      (decide (n < 0), digits n.natAbs ++ tail) := by
  rw [plain_eq_self (isDecimal_of_mem_signed n tail decimal), splitSign_signed]

/-- In the digits of a number and a decimal tail there is no underscore to drop. -/
theorem dropUnderscores?_digits (decimal : ∀ c ∈ tail, IsDecimal c) (n : ℕ) :
    dropUnderscores? false (digits n ++ tail) = some (digits n ++ tail) := by
  refine dropUnderscores?_eq_self (fun h => ?_) false
  rcases List.mem_append.1 h with h | h
  · exact Nat.underscore_not_in_toDigits h
  · exact absurd (decimal _ h) (by unfold IsDecimal; decide)

end Signed

/-- Different whole numbers have different texts. -/
theorem toString_injective : Function.Injective (toString : ℤ → String) := by
  intro n m h
  have signed := splitSign_signed n []
  rw [show toString n = toString m from h, splitSign_signed, List.append_nil, List.append_nil]
    at signed
  obtain ⟨sign, row⟩ := Prod.mk.inj signed
  have size : m.natAbs = n.natAbs := by
    rw [← ofDigits_digits m.natAbs, row, ofDigits_digits]
  rw [decide_eq_decide] at sign
  omega

/-- What begins with a digit is not one of the words. -/
theorem ofList_lowerAscii_ne {cs : List Char} {c : Char} (first : cs.head? = some c)
    (digit : c.isDigit) {word : String} (letter : word.toList.head?.any fun w => !w.isDigit) :
    String.ofList (cs.map Text.lowerAscii) ≠ word := by
  rintro rfl
  rw [String.toList_ofList, List.head?_map, first] at letter
  simp [lowerAscii_of_isDigit digit, digit] at letter

/-- The number that a text stands for if a row of digits is in front, after its sign. -/
theorem float?_of_row {s : String} {negative : Bool} {cs row tail : List Char}
    (sign : splitSign (plain s.toList) = (negative, cs))
    (dropped : dropUnderscores? false cs = some (row ++ tail)) (filled : row ≠ [])
    (numeral : ∀ d ∈ row, d.isDigit) :
    float? s = (exponent? (splitPoint tail).2.2).map
      (ofParts negative (row ++ (splitPoint tail).1) (splitPoint tail).2.1) := by
  obtain ⟨c, rest, rfl⟩ := List.exists_cons_of_ne_nil filled
  have digit : c.isDigit := numeral c (List.mem_cons_self ..)
  rw [float?, sign]
  dsimp only
  rw [dropped]
  dsimp only
  rw [if_neg, if_neg (ofList_lowerAscii_ne rfl digit (by decide)), splitPoint_row numeral]
  · rfl
  · rw [Bool.or_eq_true, decide_eq_true_eq, decide_eq_true_eq, not_or]
    exact ⟨ofList_lowerAscii_ne rfl digit (by decide), ofList_lowerAscii_ne rfl digit (by decide)⟩

/-- The number that a decimal text stands for. -/
theorem float?_signed (n : ℤ) (tail : List Char) {s : String}
    (text : s.toList = (toString n).toList ++ tail) (decimal : ∀ c ∈ tail, IsDecimal c) :
    float? s = (exponent? (splitPoint tail).2.2).map
      (ofParts (n < 0) (digits n.natAbs ++ (splitPoint tail).1) (splitPoint tail).2.1) :=
  float?_of_row (text ▸ plain_signed n tail decimal) (dropUnderscores?_digits tail decimal _)
    Nat.toDigits_ne_nil (isDigit_of_mem_digits _)

/-- **The text of a whole number is a numeral of it** up to 4300 digits, and of none beyond. -/
theorem int?_toString (n : ℤ) :
    int? (toString n) =
      if Number.decimalLength n.natAbs ≤ digitLimit then some n else none := by
  have sign : splitSign (plain (toString n).toList) = (decide (n < 0), digits n.natAbs) := by
    simpa using plain_signed n [] (by simp)
  have kept : dropUnderscores? false (digits n.natAbs) = some (digits n.natAbs) := by
    simpa using dropUnderscores?_digits [] (by simp) n.natAbs
  have filled : (digits n.natAbs).isEmpty = false := by simp [Nat.toDigits_ne_nil]
  have all : (digits n.natAbs).all Char.isDigit := List.all_eq_true.2 (isDigit_of_mem_digits _)
  have value : (if n < 0 then -(n.natAbs : ℤ) else n.natAbs) = n := by
    split <;> omega
  rw [int?, sign]
  dsimp only
  rw [kept]
  simp only [filled, all, ofDigits_digits, value, Bool.not_false, Bool.true_and,
    decide_eq_true_eq]
  rfl

/-- A written whole number reads as a decimal number without a fraction. -/
theorem float?_toString (n : ℤ) :
    float? (toString n) = some (.ofDecimal (n < 0) n.natAbs 0) := by
  rw [float?_signed n [] (by simp) (by simp)]
  simp [splitPoint, exponent?, ofParts, ofDigits_digits]

/-- A numeral with a point is no whole number. -/
theorem int?_toString_point (n : ℤ) : int? (toString n ++ ".0") = none := by
  have sign : splitSign (plain (toString n ++ ".0").toList) =
      (decide (n < 0), digits n.natAbs ++ ['.', '0']) := by
    rw [String.toList_append]
    exact plain_signed n ['.', '0'] (by simp [IsDecimal])
  rw [int?, sign]
  dsimp only
  rw [dropUnderscores?_digits _ (by simp [IsDecimal])]
  simp

/-- A written whole number with a point and a zero reads as ten times the number, one place
down. -/
theorem float?_toString_point (n : ℤ) :
    float? (toString n ++ ".0") = some (.ofDecimal (n < 0) (n.natAbs * 10) (-1)) := by
  rw [float?_signed n ['.', '0'] (by simp) (by simp [IsDecimal])]
  simp [splitPoint, exponent?, ofParts, ofDigits_digits_zero]

section Surrounded

variable {before after : String} (front : ∀ c ∈ before.toList, Text.isBlank c)
  (back : ∀ c ∈ after.toList, Text.isBlank c) (s : String)
include front back

/-- Blanks around a numeral do not count. -/
theorem plain_surrounded : plain (before ++ s ++ after).toList = plain s.toList := by
  rw [plain, String.toList_append, String.toList_append, Text.trim_surrounded front back, ← plain]

/-- Blanks around a numeral do not change the whole number that it stands for. -/
theorem int?_surrounded : int? (before ++ s ++ after) = int? s := by
  rw [int?, plain_surrounded front back, ← int?]

/-- Blanks around a numeral do not change the decimal number that it stands for. -/
theorem float?_surrounded : float? (before ++ s ++ after) = float? s := by
  rw [float?, plain_surrounded front back, ← float?]

end Surrounded

/-- An information separator is spacing, but no blank. -/
example : int? "\x1f5" = none ∧ float? "\x1f5" = none := by
  constructor <;> cbv

end Numeral
end BareMetal
