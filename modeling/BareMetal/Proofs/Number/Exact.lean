/-
# Whole numbers that are kept exactly

A whole number of quanta is kept exactly if it is a multiple of its unit, the power of two in
which its 53 first binary digits are counted (`Binary64.roundQuanta_mul`). So is every whole
number up to `2^53`, whether it is converted or read from a decimal
(`Binary64.ofInt?_of_le`, `Binary64.ofDecimal_of_le`). A very long one is infinite.
-/

import BareMetal.Number.Binary64
import Mathlib

namespace BareMetal
namespace Binary64

/-- The number one is a power of two in quanta. Which one does not count below, and a numeral
there would be multiplied out. -/
theorem exists_place : ∃ place, one = 2 ^ place := ⟨1074, by decide +kernel⟩

/-- One is a positive number of quanta. -/
theorem one_pos : 0 < one := by
  obtain ⟨place, one_eq⟩ := exists_place
  rw [one_eq]
  exact Nat.two_pow_pos _

/-- The value is a finite number. -/
def IsFinite : Binary64 → Prop
  | finite _ _ => True
  | _ => False

/-- The value is the whole number. -/
def Is (x : Binary64) (n : ℤ) : Prop :=
  ∃ negative quanta, x = .finite negative quanta ∧ signedQuanta negative quanta = n * one

/-- A number has a whole part exactly if it is finite. -/
theorem truncate?_eq_none_iff {x : Binary64} : x.truncate? = none ↔ ¬ x.IsFinite := by
  cases x with
  | finite negative quanta => exact iff_of_false (Option.some_ne_none _) (not_not.2 trivial)
  | infinite negative => exact iff_of_true rfl not_false
  | nan => exact iff_of_true rfl not_false

/-- The whole part of a whole number is the number. -/
theorem truncate?_of_is {x : Binary64} {n : ℤ} (h : x.Is n) : x.truncate? = some n := by
  obtain ⟨negative, quanta, rfl, value⟩ := h
  have nonzero : (one : ℤ) ≠ 0 := by exact_mod_cast one_pos.ne'
  have quotient : ((quanta / one : ℕ) : ℤ) = quanta / (one : ℤ) := Int.natCast_ediv ..
  cases negative with
  | true =>
    have quanta_eq : (quanta : ℤ) = -n * one := by
      rw [neg_mul, ← value]
      exact (neg_neg _).symm
    rw [quanta_eq, Int.mul_ediv_cancel _ nonzero] at quotient
    exact congrArg some ((congrArg Neg.neg quotient).trans (neg_neg n))
  | false =>
    have quanta_eq : (quanta : ℤ) = n * one := value
    rw [quanta_eq, Int.mul_ediv_cancel _ nonzero] at quotient
    exact congrArg some quotient

/-- A sign and an absolute value make a whole number. -/
theorem is_finite_natAbs (n : ℤ) : (finite (n < 0) (n.natAbs * one)).Is n := by
  refine ⟨_, _, rfl, ?_⟩
  generalize one = unit
  rcases lt_or_ge n 0 with negative | positive
  · have size : (n.natAbs : ℤ) = -n := by omega
    simp [signedQuanta, negative, size]
  · have size : (n.natAbs : ℤ) = n := by omega
    simp [signedQuanta, not_lt.2 positive, size]

/-- A multiple of its unit is not rounded. -/
theorem roundQuanta_mul {q d : ℕ} (pos : 0 < d) (kept : 2 ^ excess q ∣ q) :
    roundQuanta (q * d) d = q := by
  obtain ⟨k, hk⟩ := kept
  have units : q * d = k * (d * 2 ^ excess q) := by
    conv_lhs => rw [hk]
    ring
  have counted : Number.nearestEven (q * d) (d * 2 ^ excess q) = k := by
    rw [units]
    exact Number.nearestEven_mul k (Nat.mul_pos pos (Nat.two_pow_pos _))
  simp only [roundQuanta, Nat.pow_eq, Nat.mul_div_cancel q pos, counted]
  rw [Nat.mul_comm]
  exact hk.symm

/-- A number below `2^53` has at most 53 binary digits before the zeros that a power of two
adds. -/
theorem unit_dvd_mul_two_pow {n : ℕ} (small : n < 2 ^ 53) (place : ℕ) :
    2 ^ excess (n * 2 ^ place) ∣ n * 2 ^ place := by
  rcases Nat.eq_zero_or_pos n with rfl | pos
  · rw [Nat.zero_mul]
    exact Nat.dvd_zero _
  have nonzero : n * 2 ^ place ≠ 0 := (Nat.mul_pos pos (Nat.two_pow_pos _)).ne'
  have log : (n * 2 ^ place).log2 < 53 + place := by
    rw [Nat.log2_lt nonzero, Nat.pow_add]
    exact Nat.mul_lt_mul_of_pos_right small (Nat.two_pow_pos _)
  have bound : excess (n * 2 ^ place) ≤ place := by
    unfold excess
    omega
  exact (Nat.pow_dvd_pow 2 bound).trans (Nat.dvd_mul_left _ _)

/-- The number `2^53` itself has more zeros. -/
theorem unit_dvd_of_le {n : ℕ} (small : n ≤ 2 ^ 53) : 2 ^ excess (n * one) ∣ n * one := by
  obtain ⟨place, one_eq⟩ := exists_place
  rw [one_eq]
  rcases Nat.lt_or_eq_of_le small with below | rfl
  · exact unit_dvd_mul_two_pow below place
  · rw [← Nat.pow_add, excess, Nat.log2_two_pow]
    exact Nat.pow_dvd_pow 2 (by omega)

/-- Whole numbers up to `2^53` are in the range of the finite values. -/
theorem mul_one_lt_limit {n : ℕ} (small : n ≤ 2 ^ 53) : n * one < limit :=
  (Nat.mul_le_mul_right _ small).trans_lt (by decide +kernel)

/-- Whole numbers up to `2^53` are converted exactly. -/
theorem ofInt?_of_le {n : ℤ} (small : n.natAbs ≤ 2 ^ 53) :
    ofInt? n = some (.finite (n < 0) (n.natAbs * one)) := by
  have exactly : roundQuanta (n.natAbs * one) 1 = n.natAbs * one := by
    conv_lhs => rw [← Nat.mul_one (n.natAbs * one)]
    exact roundQuanta_mul Nat.one_pos (unit_dvd_of_le small)
  simp only [ofInt?, exactly, mul_one_lt_limit small, if_true]

/-- So are those that are read from a decimal with one zero after the point. -/
theorem ofDecimal_of_le (negative : Bool) {n : ℕ} (small : n ≤ 2 ^ 53) :
    ofDecimal negative (n * 10) (-1) = .finite negative (n * one) := by
  rcases Nat.eq_zero_or_pos n with rfl | pos
  · rw [Nat.zero_mul, Nat.zero_mul]
    rfl
  have exactly : roundQuanta (n * 10 * one) 10 = n * one := by
    rw [Nat.mul_right_comm]
    exact roundQuanta_mul (by decide) (unit_dvd_of_le small)
  have quotient : ofQuotient negative (n * 10) 10 = .finite negative (n * one) := by
    rw [ofQuotient, exactly, ofQuanta, if_pos (mul_one_lt_limit small)]
  have nonzero : n * 10 ≠ 0 := by omega
  have length : Number.decimalLength (n * 10) ≤ 17 :=
    (Nat.length_toDigits_le_iff (by decide) (by decide)).2 (by omega)
  unfold ofDecimal
  rw [if_neg nonzero]
  dsimp only
  rw [if_neg (by omega), if_neg (by omega), if_neg (by omega)]
  exact quotient

/-- A whole number of more than 400 digits is infinite. -/
theorem ofDecimal_of_long (negative : Bool) {n : ℕ} (long : 400 < Number.decimalLength n) :
    ofDecimal negative n 0 = .infinite negative := by
  have nonzero : n ≠ 0 := by
    rintro rfl
    exact absurd long (by decide)
  unfold ofDecimal
  rw [if_neg nonzero]
  dsimp only
  rw [if_pos (by omega)]

end Binary64
end BareMetal
