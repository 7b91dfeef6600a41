/-
# Whole numbers that are too great

The greatest finite value is `2^1024 - 2^971`, and the next one would be `2^1024`. A whole
number in between goes to the nearer of the two, and one in the middle to the even one, which
is not finite. So the first whole number without a finite value is `2^1024 - 2^970`
(`Binary64.ofInt?_eq_none_iff`).

A size below it is shown, and any other fails as too great (`Size.exists_text_of_lt`,
`Size.text_of_le`): only the step that takes the whole number to a value can fail, and none of
those that divide the value by 1024.
-/

import BareMetal.Size
import Mathlib

namespace BareMetal

namespace Number

/-- Below an even number: the middle between it and its predecessor goes up to it. -/
theorem nearestEven_lt_iff {n d c : ℕ} (pos : 0 < d) (even : c % 2 = 0) :
    nearestEven n d < c ↔ 2 * n + d < 2 * (c * d) := by
  have hn := Nat.div_add_mod' n d
  have hr := Nat.mod_lt n pos
  rcases Nat.lt_trichotomy (n / d + 1) c with hq | hq | hq
  · have below : (n / d + 2) * d ≤ c * d := Nat.mul_le_mul_right d hq
    have up : nearestEven n d ≤ n / d + 1 := by
      unfold nearestEven
      dsimp only
      split <;> omega
    rw [Nat.add_mul] at below
    exact iff_of_true (by omega) (by omega)
  · -- the quotient is odd, so the middle goes up
    have next : c * d = n / d * d + d := by rw [← hq, Nat.succ_mul]
    unfold nearestEven
    dsimp only
    split <;> omega
  · have above : c * d ≤ n / d * d := Nat.mul_le_mul_right d (by omega)
    have down : n / d ≤ nearestEven n d := by
      unfold nearestEven
      dsimp only
      split <;> omega
    exact iff_of_false (by omega) (by omega)

end Number

namespace Binary64

/-- Below a power of two: the last 53 binary digits decide, since the number before the power
has exactly as many. -/
theorem roundQuanta_lt_iff (n e : ℕ) :
    roundQuanta n 1 < 2 ^ (53 + e) ↔ 2 * n + 2 ^ e < 2 ^ (54 + e) := by
  have rounded : roundQuanta n 1 = Number.nearestEven n (2 ^ excess n) * 2 ^ excess n := by
    simp [roundQuanta]
  have lead (k : ℕ) (even : k % 2 = 0) : Number.nearestEven n (2 ^ excess n) < k ↔
      2 * n + 2 ^ excess n < 2 * (k * 2 ^ excess n) :=
    Number.nearestEven_lt_iff (Nat.two_pow_pos _) even
  have above : n < 2 ^ (n.log2 + 1) := Nat.lt_log2_self
  rw [rounded, Nat.pow_add 2 53, Nat.pow_add 2 54]
  rcases Nat.lt_trichotomy (excess n) e with small | same | great
  · -- the number has fewer digits, and rounding adds at most one unit
    have bound : 2 ^ (n.log2 + 1) ≤ 2 ^ 53 * 2 ^ excess n := by
      rw [← Nat.pow_add]
      exact Nat.pow_le_pow_right two_pos (by unfold excess; omega)
    have units : Number.nearestEven n (2 ^ excess n) < 2 ^ 53 + 2 :=
      (lead _ (by decide)).2 (by omega)
    have double : 2 * 2 ^ excess n ≤ 2 ^ e := by
      rw [← Nat.pow_succ']
      exact Nat.pow_le_pow_right two_pos small
    have product : Number.nearestEven n (2 ^ excess n) * 2 ^ excess n ≤
        (2 ^ 53 + 1) * 2 ^ excess n := Nat.mul_le_mul_right _ (by omega)
    exact iff_of_true (by omega) (by omega)
  · rw [same] at lead ⊢
    rw [Nat.mul_lt_mul_right (Nat.two_pow_pos e), lead _ (by decide)]
    omega
  · -- the number has more digits, and rounding keeps the first of them
    have log : n.log2 = 52 + excess n := by unfold excess at great ⊢; omega
    have nonzero : n ≠ 0 := by
      rintro rfl
      simp [excess] at great
    have bound : 2 ^ 52 * 2 ^ excess n ≤ n := by
      rw [← Nat.pow_add, ← log]
      exact Nat.log2_self_le nonzero
    have units : ¬ Number.nearestEven n (2 ^ excess n) < 2 ^ 52 := by
      rw [lead _ (by decide)]
      omega
    have double : 2 * 2 ^ e ≤ 2 ^ excess n := by
      rw [← Nat.pow_succ']
      exact Nat.pow_le_pow_right two_pos great
    have product : 2 ^ 52 * 2 ^ excess n ≤
        Number.nearestEven n (2 ^ excess n) * 2 ^ excess n :=
      Nat.mul_le_mul_right _ (by omega)
    exact iff_of_false (by omega) (by omega)

/-- A common power of two does not count. -/
theorem scaled_lt_iff (k a b : ℕ) :
    2 * (k * 2 ^ a) + 2 ^ (b + (a + 1)) < 2 ^ (54 + (b + (a + 1))) ↔
      k + 2 ^ b < 2 ^ (54 + b) := by
  have factor : 2 * (k * 2 ^ a) + 2 ^ (b + (a + 1)) = (k + 2 ^ b) * 2 ^ (a + 1) := by ring
  rw [factor, ← Nat.add_assoc, Nat.pow_add 2 (54 + b), Nat.mul_lt_mul_right (Nat.two_pow_pos _)]

/-- The first whole number that has no finite value. -/
def firstOverflow : ℕ := 2 ^ 1024 - 2 ^ 970

/-- A whole number has no floating-point number exactly from the first one on that is
rounded to infinity. -/
theorem ofInt?_eq_none_iff {n : ℤ} : ofInt? n = none ↔ firstOverflow ≤ n.natAbs := by
  have finite : ofInt? n = none ↔ ¬ roundQuanta (n.natAbs * one) 1 < limit := by
    simp [ofInt?]
  have hone : one = 2 ^ 1074 := by decide +kernel
  have hlimit : limit = 2 ^ (53 + (970 + (1074 + 1))) := by decide +kernel
  rw [finite, hlimit, hone, roundQuanta_lt_iff, scaled_lt_iff, firstOverflow]
  omega

end Binary64

namespace Size

/-- What was taken to a floating-point number is shown, however great it is. -/
theorem exists_showIn_float (units : List String) (x : Binary64) :
    ∃ s, showIn units (.float x) = .ok s := by
  induction units generalizing x with
  | nil => exact ⟨_, rfl⟩
  | cons unit units ih =>
    unfold showIn
    split
    · exact ⟨_, rfl⟩
    · exact ih _

/-- A size that is too great fails as such. -/
theorem text_of_le {n : ℕ} (great : Binary64.firstOverflow ≤ n) :
    text (some (.whole n)) = .error tooGreat := by
  have infinite : Binary64.ofInt? n = none := Binary64.ofInt?_eq_none_iff.2 great
  have fails : asFloat (.whole n) = .error tooGreat := by rw [asFloat, infinite]; rfl
  rw [text, units, showIn, fails]
  split <;> rfl

/-- Every other size is shown. -/
theorem exists_text_of_lt {n : ℕ} (small : n < Binary64.firstOverflow) :
    ∃ s, text (some (.whole n)) = .ok s := by
  obtain ⟨x, finite⟩ : ∃ x, Binary64.ofInt? n = some x := by
    refine Option.ne_none_iff_exists'.1 fun infinite => ?_
    exact absurd (Binary64.ofInt?_eq_none_iff.1 infinite) (Nat.not_le_of_lt small)
  have succeeds : asFloat (.whole n) = .ok x := by rw [asFloat, finite]; rfl
  rw [text, units, showIn, succeeds]
  split
  · exact ⟨_, rfl⟩
  · exact exists_showIn_float _ _

end Size
end BareMetal
