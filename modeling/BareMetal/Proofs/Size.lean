/-
# How a size is shown

A size below `2^53` is shown exactly: in the greatest unit that is not above it, as the nearest
number of hundredths of the unit, the even one of two, and a greater size is not shown as a smaller
number of bytes (`Size.shows_nearest_hundredth`). The loop stops in that unit since it compares the
size itself, no division being rounded, with 1024 units (`Size.showIn_float`).

The comparison comes before the rounding, though. A size that is half a hundredth of a unit or
less below 1024 of the units is shown as 1024.00 of them, not as 1.00 of the next unit, and no
other numeral is out of the range of its unit (`Size.fills_unit_iff`).
-/

import BareMetal.Proofs.Number.Quotient
import BareMetal.Proofs.Number.Rounding
import BareMetal.Proofs.Number.Spelling
import BareMetal.Size
import Mathlib

namespace BareMetal
namespace Size

/-- The names of the units, of which each is 1024 times the one before. -/
def unitName : Fin 6 → String := !["B", "KB", "MB", "GB", "TB", "PB"]

/-- The units have different names. -/
theorem unitName_injective : Function.Injective unitName := by decide

/-- A number of hundredths of a unit. -/
structure Shown where
  hundredths : ℕ
  unit : Fin 6

namespace Shown

/-- The number with its two decimals. -/
def numeral (x : Shown) : String :=
  toString (x.hundredths / 100) ++ "." ++
    toString (x.hundredths / 10 % 10) ++ toString (x.hundredths % 10)

/-- The number and the name of its unit, with a space between them. -/
def text (x : Shown) : String := x.numeral ++ " " ++ unitName x.unit

/-- The number of units. -/
def number (x : Shown) : ℚ := x.hundredths / 100

/-- The number of bytes. -/
def value (x : Shown) : ℚ := x.number * 1024 ^ (x.unit : ℕ)

/-- The numeral is the one that showing a number of hundredths gives. -/
theorem numeral_eq (x : Shown) : x.numeral = String.ofList (showHundredths x.hundredths) := by
  have tenth : x.hundredths % 100 / 10 = x.hundredths / 10 % 10 := by omega
  have cent : x.hundredths % 100 % 10 = x.hundredths % 10 := by omega
  apply String.toList_injective
  simp [numeral, showHundredths, tenth, cent, Nat.toString_eq_repr, Nat.toList_repr]

/-- The text, character by character: the digits, the point, the two decimals, the space and
the unit. -/
theorem toList_text (x : Shown) : x.text.toList =
    Numeral.digits (x.hundredths / 100) ++ '.' :: (x.hundredths / 10 % 10).digitChar ::
      (x.hundredths % 10).digitChar :: ' ' :: (unitName x.unit).toList := by
  have digit (n : ℕ) : Nat.toDigits 10 (n % 10) = [(n % 10).digitChar] :=
    Nat.toDigits_of_lt_base (Nat.mod_lt n (by decide))
  simp [text, numeral, digit, Nat.toString_eq_repr, Nat.toList_repr, Numeral.digits]

/-- The digits end at the point. -/
theorem takeWhile_text (x : Shown) :
    x.text.toList.takeWhile Char.isDigit = Numeral.digits (x.hundredths / 100) := by
  rw [toList_text, List.takeWhile_append_of_pos (Numeral.isDigit_of_mem_digits _),
    List.takeWhile_cons_of_neg (by decide), List.append_nil]

/-- The text tells what is shown. -/
theorem text_injective : Function.Injective text := by
  intro x y h
  have same : x.text.toList = y.text.toList := congrArg String.toList h
  have digits : Numeral.digits (x.hundredths / 100) = Numeral.digits (y.hundredths / 100) := by
    rw [← takeWhile_text, same, takeWhile_text]
  have whole : x.hundredths / 100 = y.hundredths / 100 := by
    rw [← Numeral.ofDigits_digits (x.hundredths / 100), digits, Numeral.ofDigits_digits]
  rw [toList_text, toList_text, digits, List.append_cancel_left_eq] at same
  injection same with _ same
  injection same with tenth same
  injection same with cent same
  injection same with _ unit
  have tenths := congrArg Char.toNat tenth
  have cents := congrArg Char.toNat cent
  rw [Nat.toNat_digitChar_of_lt_ten (Nat.mod_lt _ (by decide)),
    Nat.toNat_digitChar_of_lt_ten (Nat.mod_lt _ (by decide))] at tenths cents
  cases x
  cases y
  congr 1
  · dsimp only at whole tenths cents
    omega
  · exact unitName_injective (String.toList_injective unit)

end Shown

/-- The greatest unit that is not above the size; a byte, if the size is 0. -/
def unitOf (n : ℕ) : Fin 6 := ⟨min 5 (Nat.log 1024 n), by omega⟩

/-- What is shown for a size. -/
def shown (n : ℕ) : Shown where
  hundredths := Number.nearestEven (n * 100) (1024 ^ (unitOf n : ℕ))
  unit := unitOf n

section Text

variable {n : ℕ}

/-- A further unit is not above the one of the size exactly if the size reaches it. -/
theorem succ_le_unitOf_iff {k : ℕ} (room : k < 5) : k + 1 ≤ unitOf n ↔ 1024 ^ (k + 1) ≤ n := by
  have log : k + 1 ≤ (unitOf n : ℕ) ↔ k + 1 ≤ Nat.log 1024 n := by
    rw [unitOf, Nat.le_min]
    exact and_iff_right room
  rw [log]
  rcases Nat.eq_zero_or_pos n with rfl | pos
  · exact iff_of_false (by simp) (Nat.not_le.2 (Nat.pow_pos (by decide)))
  · exact Nat.le_log_iff_pow_le (by decide) pos.ne'

/-- The units that the loop goes through are the first five. -/
theorem units_getElem {k : ℕ} (room : k < units.length) :
    units[k] = unitName ⟨k, Nat.lt_succ_of_lt room⟩ :=
  (by decide : ∀ k : Fin units.length, units.get k = unitName k.castSucc) ⟨k, room⟩

/-- The quotient by a power of 1024 is shown in its unit. -/
theorem showFixed_of_isQuotient {x : Binary64} {k : Fin 6} (h : x.IsQuotient n k) :
    s!"{showFixed x} {unitName k}" =
      (Shown.mk (Number.nearestEven (n * 100) (1024 ^ (k : ℕ))) k).text := by
  obtain ⟨place, places, rfl⟩ := h
  have factor : n * 2 ^ place * 100 = n * 100 * 2 ^ place := Nat.mul_right_comm ..
  rw [Shown.text, Shown.numeral_eq, showFixed, if_neg Bool.false_ne_true,
    Binary64.one_eq places, factor, Nat.mul_comm (2 ^ place),
    Number.nearestEven_mul_mul_right _ _ (Nat.two_pow_pos _)]
  rfl

/-- The loop stops in the unit of the size: up to there the quotient is not below 1024. -/
theorem showIn_float {x : Binary64} {k : ℕ} (small : n < 2 ^ 53) (h : x.IsQuotient n k)
    (reached : k ≤ unitOf n) : showIn (units.drop k) (.float x) = .ok (shown n).text := by
  have shows (unit : Fin 6) (stop : k = unit) (same : unitOf n = unit) :
      (.ok s!"{showFixed x} {unitName unit}" : Except Failure String) = .ok (shown n).text := by
    rw [showFixed_of_isQuotient (stop ▸ h), shown, same]
  rcases Nat.lt_or_ge k 5 with room | spent
  · rw [List.drop_eq_getElem_cons room, units_getElem room, showIn]
    split
    · next below =>
      have stop : ¬ k + 1 ≤ unitOf n := by
        rw [succ_le_unitOf_iff room, Nat.not_le]
        exact h.isBelow_iff.1 below
      exact shows ⟨k, by omega⟩ rfl (Fin.ext (by dsimp only; omega))
    · next above =>
      have next : k + 1 ≤ unitOf n := by
        rw [succ_le_unitOf_iff room, ← Nat.not_lt]
        exact fun below => above (h.isBelow_iff.2 below)
      exact showIn_float small (h.divPow2 small (by omega)) next
  · -- behind the list there is one more unit, which holds every number
    have last : k = 5 := by omega
    rw [List.drop_eq_nil_of_le spent, showIn]
    have greatest := shows 5 last (Fin.ext (by omega))
    rw [String.append_assoc] at greatest
    exact greatest
termination_by 5 - k

/-- Only the value of a quantity counts. -/
theorem showIn_congr {q q' : Quantity} (size : isSmall q = isSmall q')
    (value : asFloat q = asFloat q') : ∀ units, showIn units q = showIn units q'
  | [] => by rw [showIn, showIn, value]
  | _ :: _ => by rw [showIn, showIn, size, value]

/-- A size below `2^53` is a floating-point number exactly, so the loop shows it in its
unit. -/
theorem text_eq_shown (small : n < 2 ^ 53) : text (some (.whole n)) = .ok (shown n).text := by
  obtain ⟨x, finite, quotient⟩ := Binary64.exists_isQuotient small
  have value : asFloat (.whole n) = .ok x := by rw [asFloat, finite]; rfl
  have size : isSmall (.whole n) = isSmall (.float x) := by
    rw [Bool.eq_iff_iff, isSmall, isSmall, quotient.isBelow_iff, decide_eq_true_eq,
      Nat.zero_add, Nat.pow_one]
    exact Nat.cast_lt_ofNat
  have stop := showIn_float small quotient (Nat.zero_le _)
  rw [List.drop_zero] at stop
  rw [text, showIn_congr size value, stop]

end Text

/-- What is shown is the nearest number of hundredths, the even one of two, of the greatest unit
that is not above the size, and of a byte if there is none. -/
structure Shown.IsFor (x : Shown) (n : ℕ) : Prop where
  byte : n = 0 → x.unit = 0
  greatest : n ≠ 0 → IsGreatest {k : ℕ | k ≤ 5 ∧ 1024 ^ k ≤ n} x.unit
  nearest : Number.IsNearest (100 * (n / 1024 ^ (x.unit : ℕ))) x.hundredths

/-- What is shown is in the unit of the size and is the nearest number of hundredths of it. -/
theorem shown_isFor (n : ℕ) : (shown n).IsFor n where
  byte zero := by
    rw [zero]
    rfl
  greatest nonzero := by
    refine ⟨⟨Nat.min_le_left .., ?_⟩, fun k hk => ?_⟩
    · exact Nat.pow_le_of_le_log nonzero (Nat.min_le_right ..)
    · exact Nat.le_min.2 ⟨hk.1, Nat.le_log_of_pow_le (by decide) hk.2⟩
  nearest := by
    have nearest := Number.isNearest_nearestEven (n * 100)
      (Nat.pow_pos (n := (unitOf n : ℕ)) (by decide : 0 < 1024))
    have quotient : 100 * ((n : ℚ) / 1024 ^ (unitOf n : ℕ)) =
        (n * 100 : ℕ) / (1024 ^ (unitOf n : ℕ) : ℕ) := by
      push_cast
      ring
    rw [shown, quotient]
    exact nearest

namespace Shown
namespace IsFor

variable {x : Shown} {n : ℕ} (h : x.IsFor n)
include h

/-- The next unit is above the size, unless there is none. -/
theorem unit_lt (other : x.unit ≠ 5) : n < 1024 ^ (x.unit + 1 : ℕ) := by
  by_contra above
  have nonzero : n ≠ 0 := by
    rintro rfl
    exact above (Nat.pow_pos (by decide))
  have room : (x.unit : ℕ) + 1 ≤ 5 := by omega
  have := (h.greatest nonzero).2 ⟨room, Nat.not_lt.1 above⟩
  omega

/-- The unit is not above the size, unless it is the byte. -/
theorem unit_le (other : x.unit ≠ 0) : 1024 ^ (x.unit : ℕ) ≤ n :=
  (h.greatest (mt h.byte other)).1.2

/-- The number shown is at least 1: the size is not below its unit, and rounding does not
bring it there. -/
theorem one_le_number (other : x.unit ≠ 0) : 1 ≤ x.number := by
  have quotient : ((100 : ℕ) : ℚ) ≤ 100 * (n / 1024 ^ (x.unit : ℕ)) := by
    have : (1 : ℚ) ≤ n / 1024 ^ (x.unit : ℕ) := by
      rw [one_le_div (by positivity)]
      exact_mod_cast h.unit_le other
    push_cast
    linarith
  have least : ((100 : ℕ) : ℚ) ≤ x.hundredths :=
    Nat.cast_le.2 ((Number.isNearest_natCast 100).mono h.nearest quotient)
  rw [number, one_le_div (by norm_num)]
  exact_mod_cast least

/-- The number shown is at most 1024: the size is below the next unit, and rounding may
bring it there. -/
theorem number_le (other : x.unit ≠ 5) : x.number ≤ 1024 := by
  have quotient : 100 * (n / 1024 ^ (x.unit : ℕ)) ≤ ((102400 : ℕ) : ℚ) := by
    have : (n / 1024 ^ (x.unit : ℕ) : ℚ) ≤ 1024 := by
      rw [div_le_iff₀ (by positivity), ← pow_succ']
      exact_mod_cast (h.unit_lt other).le
    push_cast
    linarith
  have most : (x.hundredths : ℚ) ≤ (102400 : ℕ) :=
    Nat.cast_le.2 (h.nearest.mono (Number.isNearest_natCast 102400) quotient)
  rw [number, div_le_iff₀ (by norm_num)]
  push_cast at most
  linarith

/-- What is shown is at most half a hundredth of the unit away from the size. -/
theorem abs_value_sub_le : |x.value - n| ≤ 1024 ^ (x.unit : ℕ) / 200 := by
  have near := h.nearest.near
  rw [value, number]
  generalize hu : (1024 : ℚ) ^ (x.unit : ℕ) = unit at near ⊢
  have pos : 0 < unit := hu ▸ by positivity
  have error : x.hundredths / 100 * unit - n =
      (x.hundredths - 100 * (n / unit)) * (unit / 100) := by
    field_simp
  calc |x.hundredths / 100 * unit - n|
      = |x.hundredths - 100 * (n / unit)| * (unit / 100) := by
        rw [error, abs_mul, abs_of_pos (div_pos pos (by norm_num))]
    _ ≤ 1 / 2 * (unit / 100) := by gcongr
    _ = unit / 200 := by ring

/-- A greater size is in the same unit or a greater one. -/
theorem unit_mono {y : Shown} {m : ℕ} (hy : y.IsFor m) (le : n ≤ m) : x.unit ≤ y.unit := by
  rcases Nat.eq_zero_or_pos n with zero | pos
  · rw [h.byte zero]
    exact Fin.zero_le _
  · obtain ⟨few, fits⟩ := (h.greatest pos.ne').1
    exact (hy.greatest (pos.trans_le le).ne').2 ⟨few, fits.trans le⟩

/-- A greater size is not shown as a smaller number of bytes. In a greater unit it is shown as one
of them at least, and the smaller size as at most 1024 of its own. -/
theorem value_mono {y : Shown} {m : ℕ} (hy : y.IsFor m) (le : n ≤ m) : x.value ≤ y.value := by
  rcases (h.unit_mono hy le).lt_or_eq with less | same
  · have next : (x.unit : ℕ) + 1 ≤ y.unit := less
    calc x.value ≤ 1024 * 1024 ^ (x.unit : ℕ) :=
          mul_le_mul_of_nonneg_right (h.number_le (by omega)) (by positivity)
      _ = 1024 ^ ((x.unit : ℕ) + 1) := (pow_succ' ..).symm
      _ ≤ 1024 ^ (y.unit : ℕ) := pow_le_pow_right₀ (by norm_num) next
      _ = 1 * 1024 ^ (y.unit : ℕ) := (one_mul _).symm
      _ ≤ y.value :=
          mul_le_mul_of_nonneg_right (hy.one_le_number (by omega)) (by positivity)
  · have hundredths : x.hundredths ≤ y.hundredths := by
      refine h.nearest.mono hy.nearest ?_
      rw [same]
      gcongr
    rw [value, value, number, number, same]
    gcongr

end IsFor
end Shown

/-- The size is below 1024 units by half a hundredth of one, or by less. -/
def JustBelow (n k : ℕ) : Prop :=
  n < 1024 ^ (k + 1) ∧ (1024 : ℚ) ^ (k + 1) - 1024 ^ k / 200 ≤ n

namespace Shown.IsFor

variable {x : Shown} {n : ℕ} (h : x.IsFor n)
include h

/-- The number shown is 1024 exactly if the size is half a hundredth of a unit or less below
the next unit. -/
theorem number_eq_iff (other : x.unit ≠ 5) : x.number = 1024 ↔ JustBelow n x.unit := by
  have most := h.number_le other
  have below := h.unit_lt other
  have full : x.number = 1024 ↔ 102400 ≤ x.hundredths := by
    rw [le_antisymm_iff, number, le_div_iff₀ (by norm_num), ← Nat.cast_le (α := ℚ)]
    norm_num
    exact fun _ => most
  rw [full, h.nearest.le_iff_of_even (by decide), JustBelow, and_iff_right below, pow_succ']
  generalize hu : (1024 : ℚ) ^ (x.unit : ℕ) = unit
  have pos : 0 < unit := hu ▸ by positivity
  rw [← mul_div_assoc, le_div_iff₀ pos]
  push_cast
  constructor <;> intro reached <;> linarith

/-- A size just below a unit is shown in the unit before it. -/
theorem unit_eq {k : ℕ} (room : k < 5) (just : JustBelow n k) : x.unit = k := by
  obtain ⟨below, reached⟩ := just
  have fits : 1024 ^ k ≤ n := by
    have pos : (0 : ℚ) < 1024 ^ k := by positivity
    have : (1024 : ℚ) ^ k ≤ n := by
      rw [pow_succ'] at reached
      linarith
    exact_mod_cast this
  have nonzero : n ≠ 0 := ((Nat.pow_pos (by decide)).trans_le fits).ne'
  obtain ⟨⟨-, unit_fits⟩, greatest⟩ := h.greatest nonzero
  have least : k ≤ x.unit := greatest ⟨room.le, fits⟩
  have most : (x.unit : ℕ) < k + 1 :=
    (Nat.pow_lt_pow_iff_right (by decide)).1 (unit_fits.trans_lt below)
  omega

end Shown.IsFor

/-- Whatever is shown for a size below `2^53` is the right number in the right unit. -/
theorem isFor_of_text_eq {n : ℕ} (small : n < 2 ^ 53) {x : Shown}
    (h : text (some (.whole n)) = .ok x.text) : x.IsFor n := by
  rw [text_eq_shown small] at h
  rw [← Shown.text_injective (Except.ok.inj h)]
  exact shown_isFor n

/-- **A size is shown exactly.** It is shown as the nearest hundredth of its unit, which is at most
half a hundredth away from it, and no smaller size is shown as a greater number of bytes. -/
theorem shows_nearest_hundredth {n : ℕ} (small : n < 2 ^ 53) :
    ∃ x : Shown, text (some (.whole n)) = .ok x.text ∧ x.IsFor n ∧
      |x.value - n| ≤ 1024 ^ (x.unit : ℕ) / 200 ∧
      ∀ m ≤ n, ∀ y : Shown, text (some (.whole m)) = .ok y.text → y.value ≤ x.value := by
  have isFor := shown_isFor n
  refine ⟨shown n, text_eq_shown small, isFor, isFor.abs_value_sub_le, fun m le y hy => ?_⟩
  exact (isFor_of_text_eq (le.trans_lt small) hy).value_mono isFor le

/-- In the middle between 1.12 and 1.13 the even hundredth is shown. -/
theorem shows_nearest_hundredth_tie :
    text (some (.whole 1152)) = .ok "1.12 KB" ∧
      1152 < 2 ^ 53 ∧
      ∃ x : Shown, text (some (.whole 1152)) = .ok x.text ∧ x.IsFor 1152 ∧
        |x.value - (1152 : ℕ)| ≤ 1024 ^ (x.unit : ℕ) / 200 ∧
        ∀ m : ℕ, m ≤ 1152 →
          ∀ y : Shown, text (some (.whole m)) = .ok y.text → y.value ≤ x.value :=
  ⟨(text_eq_shown (n := 1152) (by decide)).trans (congrArg Except.ok (by decide +kernel)),
    by decide, shows_nearest_hundredth (n := 1152) (by decide)⟩

/-- **Rounding may fill a unit, but no more than that.** The number shown is at least 1 in every
unit but the first and at most 1024 in every unit but the last. It is 1024 there exactly for a size
just below 1024 units, which would be shown as 1.00 of the next one if it were rounded before. -/
theorem fills_unit_iff {n : ℕ} (small : n < 2 ^ 53) {x : Shown}
    (h : text (some (.whole n)) = .ok x.text) :
    (x.unit ≠ 0 → 1 ≤ x.number) ∧ (x.unit ≠ 5 → x.number ≤ 1024) ∧
      (x.unit ≠ 5 ∧ x.number = 1024 ↔ ∃ k < 5, JustBelow n k) := by
  have isFor := isFor_of_text_eq small h
  refine ⟨isFor.one_le_number, isFor.number_le, ?_, ?_⟩
  · rintro ⟨other, full⟩
    exact ⟨x.unit, by omega, (isFor.number_eq_iff other).1 full⟩
  · rintro ⟨k, room, just⟩
    have unit := isFor.unit_eq room just
    have other : x.unit ≠ 5 := by omega
    exact ⟨other, (isFor.number_eq_iff other).2 (unit ▸ just)⟩

/-- Six bytes less than 1024 of the kilobytes are not enough to round up to 1024.00. -/
theorem fills_unit_iff_six_missing :
    text (some (.whole 1048570)) = .ok (Shown.mk 102399 1).text ∧
      1 ≤ (Shown.mk 102399 1).number ∧ (Shown.mk 102399 1).number ≤ 1024 ∧
      ¬ ∃ k < 5, JustBelow 1048570 k := by
  have shows : text (some (.whole 1048570)) = .ok (Shown.mk 102399 1).text :=
    (text_eq_shown (n := 1048570) (by decide)).trans (congrArg Except.ok (by decide +kernel))
  obtain ⟨least, most, full⟩ := fills_unit_iff (n := 1048570) (by decide) shows
  refine ⟨shows, least (by decide), most (by decide), fun just => ?_⟩
  have := (full.2 just).2
  norm_num [Shown.number] at this

/-- One byte less than a megabyte is shown as 1024 kilobytes. -/
theorem shows_full_kilobytes :
    text (some (.whole 1048575)) = .ok "1024.00 KB" ∧
      ¬ ∀ n < 2 ^ 53, ∀ x : Shown, text (some (.whole (n : ℕ))) = .ok x.text →
        (x.unit ≠ 5 → x.number < 1024) ∧ (x.unit ≠ 0 → 1 ≤ x.number) := by
  have shows : text (some (.whole 1048575)) = .ok (Shown.mk 102400 1).text :=
    (text_eq_shown (n := 1048575) (by decide)).trans (congrArg Except.ok (by decide +kernel))
  refine ⟨shows.trans (congrArg Except.ok (by decide +kernel)), fun claim => ?_⟩
  have below := (claim 1048575 (by decide) _ shows).1 (by decide)
  norm_num [Shown.number] at below

end Size
end BareMetal
