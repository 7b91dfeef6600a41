/-
# Rounding a quotient

`nearestEven n d` is the whole number nearest to `n / d`; of two equally near
ones it is the even one.
-/

namespace BareMetal
namespace Number

/-- The whole number nearest to `n / d`, the even one of two. -/
def nearestEven (n d : Nat) : Nat :=
  let q := n / d
  let r := n % d
  if d < 2 * r ∨ (2 * r = d ∧ q % 2 = 1) then q + 1 else q

/-- A quotient that is a whole number is not changed by rounding. -/
theorem nearestEven_mul (q : Nat) {d : Nat} (hd : 0 < d) : nearestEven (q * d) d = q := by
  simp [nearestEven, Nat.mul_div_cancel _ hd]
  omega

/-- The result is at most half a unit away. -/
theorem nearestEven_near (n : Nat) {d : Nat} (hd : 0 < d) :
    2 * n ≤ 2 * (nearestEven n d * d) + d ∧ 2 * (nearestEven n d * d) ≤ 2 * n + d := by
  have h := Nat.div_add_mod n d
  have hr := Nat.mod_lt n hd
  have hc : d * (n / d) = n / d * d := Nat.mul_comm _ _
  unfold nearestEven
  simp only
  split
  · rw [Nat.add_mul]; omega
  · omega

end Number
end BareMetal
