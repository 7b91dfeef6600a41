/-
# Numbers in JSON values

A number that is read from a JSON text is bounded (`Datum.IsMeasured`): a whole number has few
enough digits to be written again, since so many are read at most, and a floating-point number is
below the limit, which is `2^1024`. This is so at any depth of the value
(`Json.isMeasured_of_parse`), and of the number that a numeral in a text stands for as well
(`Numeral.isWritable_of_int?`, `Numeral.isBelowLimit_of_float?`).
-/

import BareMetal.Number.Decimal
import BareMetal.Proofs.Collections
import BareMetal.Proofs.Json.Names
import BareMetal.Proofs.Number.Exact
import BareMetal.Proofs.Number.Spelling

namespace BareMetal

/-! ### Whole numbers -/

namespace Numeral

/-- A whole number can be written exactly if it is below a power of ten. -/
theorem isWritable_iff {n : ℤ} : IsWritable n ↔ n.natAbs < 10 ^ digitLimit :=
  Nat.length_toDigits_le_iff (by decide) (by decide)

/-- A whole number that was read from few enough digits can be written again. -/
theorem isWritable_of_ofDigits {n : ℤ} {ds : List Char} (digits : ∀ d ∈ ds, d.isDigit)
    (short : ds.length ≤ digitLimit) (value : n.natAbs = ofDigits ds) : IsWritable n := by
  rw [isWritable_iff, value]
  exact (ofDigits_lt digits).trans_le (Nat.pow_le_pow_right (by decide) short)

/-- A numeral of a whole number has few enough digits to be written again. -/
theorem isWritable_of_int? {s : String} {n : ℤ} (whole : int? s = some n) : IsWritable n := by
  rw [int?] at whole
  dsimp only at whole
  split at whole
  · next ds _ =>
    split at whole
    · next row =>
      simp only [Bool.and_eq_true, decide_eq_true_eq] at row
      obtain ⟨⟨-, digits⟩, short⟩ := row
      obtain rfl := Option.some.inj whole
      refine isWritable_of_ofDigits (List.all_eq_true.1 digits) short ?_
      split <;> simp
    · cases whole
  · cases whole

end Numeral

/-! ### Floating-point numbers -/

namespace Binary64

/-- The value is below the limit, if it is finite at all. -/
def IsBelowLimit (x : Binary64) : Prop :=
  ∀ negative quanta, x = .finite negative quanta → quanta < limit

/-- A value that a sign and a number of quanta have is below the limit. -/
theorem isBelowLimit_ofQuanta (negative : Bool) (n : ℕ) :
    (ofQuanta negative n).IsBelowLimit := by
  intro sign quanta h
  unfold ofQuanta at h
  split at h
  · next below => exact (Binary64.finite.inj h).2 ▸ below
  · cases h

/-- The value of a decimal is below the limit. -/
theorem isBelowLimit_ofDecimal (negative : Bool) (digits : ℕ) (exponent : ℤ) :
    (ofDecimal negative digits exponent).IsBelowLimit := by
  have zero (sign : Bool) : (finite sign 0).IsBelowLimit := by
    rintro _ _ ⟨⟩
    decide +kernel
  unfold ofDecimal
  split
  · exact zero _
  dsimp only
  split
  · nofun
  split
  · exact zero _
  split <;> exact isBelowLimit_ofQuanta _ _

/-- What is below the limit has a whole part that can be written. -/
theorem IsBelowLimit.isWritable {x : Binary64} (below : x.IsBelowLimit) {n : ℤ}
    (whole : x.truncate? = some n) : Numeral.IsWritable n := by
  cases x with
  | finite negative quanta =>
    have part : quanta / one < 2 ^ 1024 := by
      have powers : limit = 2 ^ 1024 * one := by decide +kernel
      exact (Nat.div_lt_iff_lt_mul one_pos).2 (powers ▸ below negative quanta rfl)
    have size : n.natAbs = quanta / one := by
      obtain rfl := Option.some.inj whole
      generalize quanta / one = k
      cases negative <;> simp
    have digits (k : ℕ) (few : k ≤ Numeral.digitLimit) : 2 ^ k ≤ 10 ^ Numeral.digitLimit :=
      (Nat.pow_le_pow_left (by decide) k).trans (Nat.pow_le_pow_right (by decide) few)
    rw [Numeral.isWritable_iff, size]
    exact part.trans_le (digits 1024 (by decide))
  | infinite negative => cases whole
  | nan => cases whole

end Binary64

/-- What a numeral stands for is below the limit. -/
theorem Numeral.isBelowLimit_of_float? {s : String} {x : Binary64} (number : float? s = some x) :
    x.IsBelowLimit := by
  rintro sign quanta rfl
  rw [float?] at number
  dsimp only at number
  split at number
  · cases number
  split at number
  · cases number
  split at number
  · cases number
  split at number
  · cases number
  obtain ⟨exponent, -, parts⟩ := Option.map_eq_some_iff.1 number
  exact Binary64.isBelowLimit_ofDecimal _ _ _ sign quanta parts

/-! ### Values -/

/-- Every number in the value is bounded: a whole number has few enough digits to be written, and
a floating-point number is below the limit. -/
inductive Datum.IsMeasured : Datum → Prop
  | null : IsMeasured .null
  | bool (b : Bool) : IsMeasured (.bool b)
  | int {n : ℤ} (writable : Numeral.IsWritable n) : IsMeasured (.int n)
  | float {x : Binary64} (below : x.IsBelowLimit) : IsMeasured (.float x)
  | text (s : String) : IsMeasured (.text s)
  | bytes (bs : List UInt8) : IsMeasured (.bytes bs)
  | list {ds : List Datum} (items : ∀ d ∈ ds, IsMeasured d) : IsMeasured (.list ds)
  | map {es : Entries Datum} (values : ∀ e ∈ es, IsMeasured e.2) : IsMeasured (.map es)

/-- A value in a measured map is measured. -/
theorem Datum.IsMeasured.of_get? {es : Entries Datum} {name : String} {d : Datum}
    (h : (Datum.map es).IsMeasured) (found : es.get? name = some d) : d.IsMeasured := by
  cases h with
  | map values => exact values _ (Entries.mem_of_get? found)

namespace Json

/-- Bounds are kept: so many digits are read, and every decimal is below the limit. -/
theorem isKept_isMeasured : IsKept Numeral.digitLimit Datum.IsMeasured where
  null := .null
  bool := .bool
  nan := .float nofun
  infinite _ := .float nofun
  number numeric := by
    cases numeric with
    | int digits short value => exact .int (Numeral.isWritable_of_ofDigits digits short value)
    | float => exact .float (Binary64.isBelowLimit_ofDecimal _ _ _)
  text := .text
  list := .list
  map values := .map fun _ he =>
    have ⟨p, hp, same⟩ := Entries.mem_ofList he
    same ▸ values p hp

/-- **Numbers in JSON are bounded.** -/
theorem isMeasured_of_parse {text : List Char} {d : Datum} (h : parse text = .ok d) :
    d.IsMeasured :=
  isKept_isMeasured.of_parse h

end Json
end BareMetal
