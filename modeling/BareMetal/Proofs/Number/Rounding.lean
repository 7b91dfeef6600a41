/-
# Rounding to the nearest

The whole number nearest to a quotient is at most one half away, and it is even if it is one half
away (`Number.IsNearest`). That is what the rounding of a quotient gives
(`Number.isNearest_nearestEven`), and it is all that is needed of it: a greater quotient is not
taken to a smaller number (`Number.IsNearest.mono`).
-/

import BareMetal.Number.Rounding
import Mathlib

namespace BareMetal
namespace Number

/-- The whole number is the nearest one to a quotient, and the even one of two. -/
structure IsNearest (q : ℚ) (m : ℕ) : Prop where
  near : |(m : ℚ) - q| ≤ 1 / 2
  even : |(m : ℚ) - q| = 1 / 2 → Even m

/-- A whole number is the nearest one to itself. -/
theorem isNearest_natCast (m : ℕ) : IsNearest m m := by
  constructor <;> norm_num

/-- A quotient that comes within one half of a greater number is in the middle between it and
the nearest one, which is even. -/
theorem IsNearest.succ_eq_and_even {q : ℚ} {m c : ℕ} (h : IsNearest q m) (less : m < c)
    (reached : (c : ℚ) - 1 / 2 ≤ q) : c = m + 1 ∧ Even m := by
  have next : (m : ℚ) + 1 ≤ c := by exact_mod_cast less
  obtain ⟨low, -⟩ := abs_le.1 h.near
  have below : (m : ℚ) - q = -(1 / 2) := by linarith
  constructor
  · have : (c : ℚ) = m + 1 := by linarith
    exact_mod_cast this
  · exact h.even (by rw [below]; norm_num)

/-- A greater quotient is not taken to a smaller number: both would be in the middle of the same
two neighbours, of which one is even. -/
theorem IsNearest.mono {q q' : ℚ} {m m' : ℕ} (h : IsNearest q m) (h' : IsNearest q' m')
    (le : q ≤ q') : m ≤ m' := by
  by_contra less
  obtain ⟨-, high⟩ := abs_le.1 h.near
  obtain ⟨low', -⟩ := abs_le.1 h'.near
  obtain ⟨rfl, even'⟩ := h'.succ_eq_and_even (Nat.not_le.1 less) (by linarith)
  have above : ((m' + 1 : ℕ) : ℚ) - q = 1 / 2 := by
    push_cast at high ⊢
    linarith
  have even : Even (m' + 1) := h.even (by rw [above]; norm_num)
  exact Nat.even_add_one.1 even even'

/-- An even number is reached from the middle between it and the number before. -/
theorem IsNearest.le_iff_of_even {q : ℚ} {m c : ℕ} (h : IsNearest q m) (even : Even c) :
    c ≤ m ↔ (c : ℚ) - 1 / 2 ≤ q := by
  constructor
  · intro le
    obtain ⟨-, high⟩ := abs_le.1 h.near
    have : (c : ℚ) ≤ m := by exact_mod_cast le
    linarith
  · intro reached
    by_contra less
    obtain ⟨rfl, even'⟩ := h.succ_eq_and_even (Nat.not_le.1 less) reached
    exact Nat.even_add_one.1 even even'

/-- In the middle of two numbers the result is the even one. -/
theorem nearestEven_even {n d : ℕ} (pos : 0 < d)
    (tie : 2 * n = 2 * (nearestEven n d * d) + d ∨ 2 * (nearestEven n d * d) = 2 * n + d) :
    Even (nearestEven n d) := by
  have hn := Nat.div_add_mod' n d
  have hr := Nat.mod_lt n pos
  rw [Nat.even_iff]
  revert tie
  unfold nearestEven
  dsimp only
  split
  · next up =>
    rw [Nat.add_mul]
    omega
  · next down => omega

/-- What a quotient is rounded to is the nearest whole number, the even one of two. -/
theorem isNearest_nearestEven (n : ℕ) {d : ℕ} (pos : 0 < d) :
    IsNearest (n / d) (nearestEven n d) := by
  have unit : (0 : ℚ) < d := by exact_mod_cast pos
  have nonzero : (d : ℚ) ≠ 0 := unit.ne'
  have within := nearestEven_near n pos
  have tie := nearestEven_even (n := n) pos
  generalize nearestEven n d = m at within tie
  constructor
  · have high : (2 * n : ℚ) ≤ 2 * (m * d) + d := by exact_mod_cast within.1
    have low : (2 * (m * d) : ℚ) ≤ 2 * n + d := by exact_mod_cast within.2
    have below : (n / d : ℚ) ≤ m + 1 / 2 := by
      rw [div_le_iff₀ unit]
      linarith
    have above : (m - 1 / 2 : ℚ) ≤ n / d := by
      rw [le_div_iff₀ unit]
      linarith
    exact abs_le.2 ⟨by linarith, by linarith⟩
  · intro half
    refine tie ?_
    rcases (abs_eq (by norm_num)).1 half with above | below
    · right
      have quotient : (n / d : ℚ) = m - 1 / 2 := by linarith
      rw [div_eq_iff nonzero] at quotient
      exact_mod_cast (by linarith : (2 * (m * d) : ℚ) = 2 * n + d)
    · left
      have quotient : (n / d : ℚ) = m + 1 / 2 := by linarith
      rw [div_eq_iff nonzero] at quotient
      exact_mod_cast (by linarith : (2 * n : ℚ) = 2 * (m * d) + d)

/-- A common factor does not count. -/
theorem nearestEven_mul_mul_right (n d : ℕ) {c : ℕ} (pos : 0 < c) :
    nearestEven (n * c) (d * c) = nearestEven n d := by
  unfold nearestEven
  dsimp only
  rw [Nat.mul_div_mul_right n d pos, Nat.mul_mod_mul_right]
  have up : d * c < 2 * (n % d * c) ↔ d < 2 * (n % d) := by
    rw [← Nat.mul_assoc, Nat.mul_lt_mul_right pos]
  have tie : 2 * (n % d * c) = d * c ↔ 2 * (n % d) = d := by
    rw [← Nat.mul_assoc, Nat.mul_left_inj pos.ne']
  simp only [up, tie]

end Number
end BareMetal
