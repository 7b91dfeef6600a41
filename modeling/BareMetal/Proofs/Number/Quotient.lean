/-
# Exact quotients

A whole number below `2^53` divided by 1024, and again, is a whole number of quanta with the same
53 binary digits at most, so none of the divisions is rounded (`Binary64.IsQuotient.divPow2`). The
places below the point are 1074, enough for 107 of them. What is compared is the quotient itself
(`Binary64.IsQuotient.isBelow_iff`).
-/

import BareMetal.Proofs.Number.Exact
import Mathlib

namespace BareMetal
namespace Binary64

/-- The value is `n / 1024^k`. -/
def IsQuotient (x : Binary64) (n k : ℕ) : Prop :=
  ∃ place, place + 10 * k = 1074 ∧ x = .finite false (n * 2 ^ place)

/-- The quanta in one, as a power of two and as many powers of 1024 as divisions were made. -/
theorem one_eq {place k : ℕ} (places : place + 10 * k = 1074) : one = 2 ^ place * 1024 ^ k := by
  have power : one = 2 ^ 1074 := by decide +kernel
  rw [power, ← places, Nat.pow_add, Nat.pow_mul]

/-- A size below `2^53` is a floating-point number exactly, before any division. -/
theorem exists_isQuotient {n : ℕ} (small : n < 2 ^ 53) :
    ∃ x, ofInt? n = some x ∧ x.IsQuotient n 0 := by
  refine ⟨_, ofInt?_of_le (n := n) (by simpa using small.le), 1074, rfl, ?_⟩
  have undivided : one = 2 ^ 1074 * 1024 ^ 0 := one_eq rfl
  rw [undivided, Nat.pow_zero, Nat.mul_one, Int.natAbs_natCast,
    decide_eq_false (Int.not_lt.2 (Int.natCast_nonneg n))]

namespace IsQuotient

variable {x : Binary64} {n k : ℕ} (h : x.IsQuotient n k)
include h

/-- A division by 1024 is exact as long as there are places left. -/
theorem divPow2 (small : n < 2 ^ 53) (room : k < 107) : (x.divPow2 10).IsQuotient n (k + 1) := by
  obtain ⟨place, places, rfl⟩ := h
  obtain ⟨rest, rfl⟩ : ∃ rest, place = rest + 10 := ⟨place - 10, by omega⟩
  refine ⟨rest, by omega, ?_⟩
  rw [Binary64.divPow2, Nat.pow_eq, Nat.pow_add, ← Nat.mul_assoc,
    roundQuanta_mul (Nat.two_pow_pos _) (unit_dvd_mul_two_pow small rest)]

/-- A quotient is below 1024 exactly if the size is below the next power of it. -/
theorem isBelow_iff : x.isBelow 1024 ↔ n < 1024 ^ (k + 1) := by
  obtain ⟨place, places, rfl⟩ := h
  have quanta : (finite false (n * 2 ^ place)).isBelow 1024 ↔ n * 2 ^ place < 1024 * one := by
    rw [isBelow, decide_eq_true_eq, signedQuanta, if_neg Bool.false_ne_true]
    exact_mod_cast Iff.rfl
  have factor : 1024 * one = 1024 ^ (k + 1) * 2 ^ place := by
    rw [one_eq places]
    ring
  rw [quanta, factor, Nat.mul_lt_mul_right (Nat.two_pow_pos _)]

end IsQuotient

end Binary64
end BareMetal
