/-
# The order of versions

Versions are compared by their keys, so what holds of the order of lists of
numbers holds of them: `≤` is a preorder, `<` is its strict part and holds exactly
where `≥` does not (`Version.not_le`), and two versions are below each other exactly
if they are spellings of one version (`Version.same_iff_le_and_ge`).
-/

import BareMetal.Version.Order
import Mathlib.Order.Defs.PartialOrder

namespace BareMetal
namespace Version

instance : Std.TransOrd Version where
  eq_swap := Std.OrientedOrd.eq_swap (α := List (List (List Nat)))
  isLE_trans := Std.TransOrd.isLE_trans (α := List (List (List Nat)))

/-- A version that is not older or the same is newer. -/
theorem not_le {v w : Version} : ¬ v ≤ w ↔ w < v := by
  rw [le_def, lt_def, ← Std.OrientedCmp.gt_iff_lt]
  cases compare v w <;> simp

instance : Preorder Version where
  le_refl _ := Std.ReflOrd.isLE_rfl
  le_trans _ _ _ := Std.TransOrd.isLE_trans
  lt_iff_le_not_ge v w := by
    rw [not_le, lt_def, le_def]
    cases compare v w <;> simp

/-- A version that is not older is newer or the same. -/
theorem not_lt {v w : Version} : ¬ v < w ↔ w ≤ v := by
  rw [← not_le, Classical.not_not]

/-- Versions that are not newer than each other are spellings of one version. -/
theorem same_iff_le_and_ge {v w : Version} : v.Same w ↔ v ≤ w ∧ w ≤ v := by
  rw [Same, ← compare_eq_eq_iff]
  constructor
  · intro h
    exact ⟨by rw [le_def, h]; rfl, by rw [le_def, ← compare_swap, h]; rfl⟩
  · intro h
    exact Std.OrientedCmp.isLE_antisymm h.1 h.2

namespace Same

variable {u v w : Version}

/-- A version is a spelling of itself. -/
theorem refl (v : Version) : v.Same v := rfl

/-- Spellings of one version are so both ways. -/
theorem symm (h : v.Same w) : w.Same v := Eq.symm h

/-- Two spellings of a third version are spellings of one version. -/
theorem trans (h : u.Same v) (h' : v.Same w) : u.Same w := Eq.trans h h'

/-- A spelling of a version is not newer than it. -/
theorem le (h : v.Same w) : v ≤ w := (same_iff_le_and_ge.1 h).1

end Same

/-- A version that is not newer, and no spelling of the other, is older. -/
theorem lt_of_not_same {v w : Version} (h : v ≤ w) (other : ¬ v.Same w) : v < w :=
  not_le.1 fun h' => other (same_iff_le_and_ge.2 ⟨h, h'⟩)

end Version
end BareMetal
