/-
# The sign of a number

A finite value is a rational number (`Binary64.value?`). Its whole part, which is cut toward zero,
is below zero exactly if the value is minus one or less (`Binary64.truncate?_neg_iff`): the values
between minus one and zero have the whole part zero.

A decimal has the sign that it is written with, if it is not zero. So a numeral of a whole number
that is not below zero stands for no floating-point number below zero either
(`Numeral.value_nonneg_of_int?`).
-/

import BareMetal.Proofs.Number.Exact
import BareMetal.Proofs.Number.Spelling

namespace BareMetal

namespace Binary64

/-- The rational number that a finite value is. -/
def value? : Binary64 → Option ℚ
  | finite negative quanta => some (signedQuanta negative quanta / one)
  | _ => none

/-- The numbers that have a value are those that have a whole part. -/
theorem exists_value?_iff {x : Binary64} :
    (∃ q, x.value? = some q) ↔ ∃ n, x.truncate? = some n := by
  cases x with
  | finite negative quanta => exact iff_of_true ⟨_, rfl⟩ ⟨_, rfl⟩
  | infinite negative => exact iff_of_false nofun nofun
  | nan => exact iff_of_false nofun nofun

/-- The value of a magnitude without a minus sign is not below zero. -/
theorem value_nonneg {quanta : ℕ} {q : ℚ} (h : (finite false quanta).value? = some q) : 0 ≤ q := by
  obtain rfl := Option.some.inj h
  rw [signedQuanta, if_neg Bool.false_ne_true]
  positivity

/-- What compares as below zero is a rational number below zero. -/
theorem value_neg_of_isBelow {x : Binary64} {q : ℚ} (value : x.value? = some q)
    (below : x.isBelow 0) : q < 0 := by
  cases x with
  | finite negative quanta =>
    obtain rfl := Option.some.inj value
    rw [isBelow, zero_mul, decide_eq_true_eq] at below
    exact div_neg_of_neg_of_pos (by exact_mod_cast below) (by exact_mod_cast one_pos)
  | infinite negative => cases value
  | nan => cases value

/-- **A whole part is below zero** exactly if the value is minus one or less, and it is not above
zero if the value is below. -/
theorem truncate?_neg_iff {x : Binary64} {n : ℤ} {q : ℚ} (whole : x.truncate? = some n)
    (value : x.value? = some q) : (n < 0 ↔ q ≤ -1) ∧ (q < 0 → n ≤ 0) := by
  cases x with
  | finite negative quanta =>
    obtain rfl := Option.some.inj whole
    cases negative with
    | false =>
      have nonneg := value_nonneg value
      have part : (0 : ℤ) ≤ (quanta / one : ℕ) := Int.natCast_nonneg _
      exact ⟨iff_of_false (not_lt.2 part) (by linarith),
        fun below => absurd nonneg (not_le.2 below)⟩
    | true =>
      obtain rfl := Option.some.inj value
      have pos : (0 : ℚ) < one := by exact_mod_cast one_pos
      have reached : 0 < quanta / one ↔ one ≤ quanta :=
        Nat.div_pos_iff.trans (and_iff_right one_pos)
      rw [signedQuanta, if_pos rfl, if_pos rfl, div_le_iff₀ pos]
      refine ⟨?_, fun _ => neg_nonpos.2 (Int.natCast_nonneg _)⟩
      rw [neg_lt_zero, Int.natCast_pos, reached]
      push_cast
      rw [neg_one_mul, neg_le_neg_iff, Nat.cast_le]
  | infinite negative => cases whole
  | nan => cases whole

/-- Rounding keeps the sign. -/
theorem ofQuanta_eq_finite {negative sign : Bool} {n quanta : ℕ}
    (h : ofQuanta negative n = .finite sign quanta) : sign = negative := by
  unfold ofQuanta at h
  split at h
  · exact (Binary64.finite.inj h).1.symm
  · cases h

/-- A decimal that is finite has the sign that it is written with. -/
theorem ofDecimal_eq_finite {negative sign : Bool} {digits quanta : ℕ} {exponent : ℤ}
    (h : ofDecimal negative digits exponent = .finite sign quanta) : sign = negative := by
  unfold ofDecimal at h
  split at h
  · exact (Binary64.finite.inj h).1.symm
  dsimp only at h
  split at h
  · cases h
  split at h
  · exact (Binary64.finite.inj h).1.symm
  split at h <;> exact ofQuanta_eq_finite h

end Binary64

namespace Numeral

/-- What a numeral of a whole number consists of, and the number that it stands for as well. -/
theorem exists_of_int? {s : String} {n : ℤ} (h : int? s = some n) :
    ∃ negative digits, n = (if negative then -(digits : ℤ) else digits) ∧
      float? s = some (.ofDecimal negative digits 0) := by
  rw [int?] at h
  dsimp only at h
  generalize hp : splitSign (plain s.toList) = parts at h
  obtain ⟨negative, cs⟩ := parts
  dsimp only at h
  cases dropped : dropUnderscores? false cs with
  | none =>
    rw [dropped] at h
    cases h
  | some ds =>
    rw [dropped] at h
    dsimp only at h
    split at h
    · next row =>
      simp only [Bool.and_eq_true, decide_eq_true_eq] at row
      obtain ⟨⟨filled, digits⟩, -⟩ := row
      refine ⟨negative, ofDigits ds, (Option.some.inj h).symm, ?_⟩
      have some : ds ≠ [] := by simpa using filled
      rw [float?_of_row hp (dropped.trans (congrArg _ (List.append_nil ds).symm)) some
        (List.all_eq_true.1 digits)]
      simp [splitPoint, exponent?, ofParts]
    · cases h

/-- A numeral of a whole number that is not below zero is read as no number below zero. -/
theorem value_nonneg_of_int? {s : String} {n : ℤ} {x : Binary64} {q : ℚ} (whole : int? s = some n)
    (nonneg : 0 ≤ n) (number : float? s = some x) (value : x.value? = some q) : 0 ≤ q := by
  obtain ⟨negative, digits, rfl, reads⟩ := exists_of_int? whole
  obtain rfl := Option.some.inj (number.symm.trans reads)
  cases negative with
  | true =>
    -- minus zero is the only such number with a minus sign
    have zero : digits = 0 := by simpa using nonneg
    rw [zero, Binary64.ofDecimal, if_pos rfl] at value
    obtain rfl := Option.some.inj value
    rw [Binary64.signedQuanta, if_pos rfl, Nat.cast_zero, neg_zero, Int.cast_zero, zero_div]
  | false =>
    cases decimal : Binary64.ofDecimal false digits 0 with
    | finite sign quanta =>
      obtain rfl := Binary64.ofDecimal_eq_finite decimal
      exact Binary64.value_nonneg (decimal ▸ value)
    | infinite sign =>
      rw [decimal] at value
      cases value
    | nan =>
      rw [decimal] at value
      cases value

end Numeral
end BareMetal
