/-
# Size fields

A size field is a number field that refuses what is below zero. It looks at the whole part of a
number, which is cut toward zero: so it refuses a number of minus one or less, and reads a number
between minus one and zero as zero (`SizeField.refuses_iff_le_neg_one`).

| value | outcome |
| --- | --- |
| a number of −1 or less, or a text of one | no unsigned number, its whole part shown |
| a number between −1 and 0, or a text of one | zero |
| any other value | the outcome of a number field |

A text may be a numeral of a whole number and of a floating-point number at once. Beyond `2^53`
these can be two numbers, but they have one sign.
-/

import BareMetal.Proofs.Number.Sign
import BareMetal.Proofs.Schema.Numbers
import BareMetal.Proofs.Schema.Place
import BareMetal.Storage.Partition

namespace BareMetal

/-- The value is a finite number, or a text that is a numeral of one. -/
inductive Datum.IsNumber : Datum → ℚ → Prop
  | int (n : ℤ) : IsNumber (.int n) n
  | float {x : Binary64} {q : ℚ} (value : x.value? = some q) : IsNumber (.float x) q
  | numeral {s : String} {n : ℤ} (reads : Numeral.int? s = some n) : IsNumber (.text s) n
  | decimal {s : String} {x : Binary64} {q : ℚ} (reads : Numeral.float? s = some x)
      (value : x.value? = some q) : IsNumber (.text s) q

/-- What is a number stands for a whole number. -/
theorem Datum.IsNumber.exists_denotes {d : Datum} {q : ℚ} (h : d.IsNumber q) :
    ∃ n, Denotes d n := by
  cases h with
  | int n => exact ⟨n, .int n⟩
  | float value =>
    obtain ⟨n, whole⟩ := Binary64.exists_value?_iff.1 ⟨q, value⟩
    exact ⟨n, .float whole⟩
  | numeral reads => exact ⟨_, .numeral reads⟩
  | @decimal s _ _ reads value =>
    obtain ⟨n, whole⟩ := Binary64.exists_value?_iff.1 ⟨q, value⟩
    cases other : Numeral.int? s with
    | none => exact ⟨n, .decimal other reads whole⟩
    | some m => exact ⟨m, .numeral other⟩

namespace Denotes

variable {d : Datum} {n : ℤ}

/-- A value that stands for a whole number below zero is a number of minus one or less. -/
theorem exists_le_of_neg (h : Denotes d n) (neg : n < 0) : ∃ q, d.IsNumber q ∧ q ≤ -1 := by
  have cast : (n : ℚ) ≤ -1 := by exact_mod_cast Int.le_sub_one_of_lt neg
  cases h with
  | int => exact ⟨n, .int n, cast⟩
  | float whole =>
    obtain ⟨q, value⟩ := Binary64.exists_value?_iff.2 ⟨n, whole⟩
    exact ⟨q, .float value, (Binary64.truncate?_neg_iff whole value).1.1 neg⟩
  | numeral reads => exact ⟨n, .numeral reads, cast⟩
  | decimal other reads whole =>
    obtain ⟨q, value⟩ := Binary64.exists_value?_iff.2 ⟨n, whole⟩
    exact ⟨q, .decimal reads value, (Binary64.truncate?_neg_iff whole value).1.1 neg⟩

/-- The whole number is below zero if a number is minus one or less, and not above zero if one is
below zero. -/
theorem sign (h : Denotes d n) {q : ℚ} (number : d.IsNumber q) :
    (q ≤ -1 → n < 0) ∧ (q < 0 → n ≤ 0) := by
  have itself {m : ℤ} : ((m : ℚ) ≤ -1 → m < 0) ∧ ((m : ℚ) < 0 → m ≤ 0) := by
    refine ⟨fun le => ?_, fun below => by exact_mod_cast below.le⟩
    have : m ≤ -1 := by exact_mod_cast le
    omega
  have part {x : Binary64} (whole : x.truncate? = some n) (value : x.value? = some q) :
      (q ≤ -1 → n < 0) ∧ (q < 0 → n ≤ 0) :=
    (Binary64.truncate?_neg_iff whole value).imp_left Iff.mpr
  cases number with
  | int m =>
    cases h
    exact itself
  | float value =>
    cases h with
    | float whole => exact part whole value
  | numeral reads =>
    cases h with
    | numeral reads' =>
      obtain rfl := Option.some.inj (reads.symm.trans reads')
      exact itself
    | decimal other _ _ => exact absurd (other.symm.trans reads) nofun
  | decimal reads value =>
    cases h with
    | numeral whole =>
      have neg (below : q < 0) : n < 0 := by
        by_contra nonneg
        have := Numeral.value_nonneg_of_int? whole (not_lt.1 nonneg) reads value
        linarith
      exact ⟨fun le => neg (by linarith), fun below => (neg below).le⟩
    | decimal other reads' whole =>
      obtain rfl := Option.some.inj (reads.symm.trans reads')
      exact part whole value

end Denotes

namespace Shape

variable {d : Datum}

/-- A whole number below zero is refused as a size, and shown in place of the value. -/
theorem readSize_of_neg {n : ℤ} (reads : readNumber d = .ok n) (neg : n < 0) :
    readSize d = .error { expected := .unsignedNumber, got := .int n } := by
  rw [readSize, reads]
  cases n with
  | ofNat n => exact absurd neg (not_lt.2 (Int.natCast_nonneg n))
  | negSucc n => rfl

/-- Where no whole number below zero comes of it, a size is read as the whole number is. -/
theorem map_readSize (nonneg : ∀ n, readNumber d = .ok n → 0 ≤ n) :
    (readSize d).map Int.ofNat = readNumber d := by
  rw [readSize]
  cases reads : readNumber d with
  | error m => rfl
  | ok n =>
    cases n with
    | ofNat n => rfl
    | negSucc n => exact absurd (nonneg _ reads) (not_le.2 (Int.negSucc_lt_zero n))

end Shape

namespace SizeField

/-- A field for a size refuses the value as no unsigned number, and shows the whole number that
it takes the value for. -/
def IsRefused (d : Datum) (n : ℤ) : Prop :=
  ∀ (name : String) (default : Option ℕ) (es : Entries Datum), es.get? name = some d →
    Field.read { name, shape := .size, default } es =
      .error { expected := .unsignedNumber, got := .int n, path := [.name name] }

/-- A field for a size makes of the value what a field for a number makes of it, be it a number
or a mismatch. -/
def ReadsAsNumber (d : Datum) : Prop :=
  ∀ (name : String) (default : Option ℕ) (es : Entries Datum), es.get? name = some d →
    (Field.read { name, shape := .size, default } es).map Int.ofNat =
      Field.read { name, shape := .number, default := default.map Int.ofNat } es

variable {d : Datum}

/-- A size is refused for its sign exactly if its field reads as a whole number below zero. -/
theorem isRefused_iff {n : ℤ} : IsRefused d n ↔ n < 0 ∧ NumberField.ReadsAs d n := by
  rw [NumberField.readsAs_iff]
  constructor
  · intro h
    have refused := h "" none [("", d)] rfl
    rw [Field.read_present (d := d) rfl] at refused
    obtain ⟨⟨expected, got, path⟩, wrong, under⟩ := mapError_eq_error_iff.1 refused
    obtain ⟨rfl, rfl, -⟩ := Mismatch.mk.inj under
    change Shape.readSize d = _ at wrong
    cases reads : Shape.readNumber d with
    | error m =>
      have other := (Shape.readNumber_eq_error reads).1
      rw [Shape.readSize, reads] at wrong
      obtain rfl := Except.error.inj wrong
      exact absurd rfl other
    | ok m =>
      by_cases neg : m < 0
      · rw [Shape.readSize_of_neg reads neg] at wrong
        cases wrong
        exact ⟨neg, rfl⟩
      · have nonneg := Int.not_lt.1 neg
        obtain ⟨k, rfl⟩ := Int.eq_ofNat_of_zero_le nonneg
        rw [Shape.readSize, reads] at wrong
        cases wrong
  · rintro ⟨neg, reads⟩ name default es present
    rw [Field.read_present present]
    exact mapError_eq_error_iff.2 ⟨_, Shape.readSize_of_neg reads neg, rfl⟩

/-- What reads as a whole number that is not below zero is not refused for its sign. -/
theorem not_isRefused_of_nonneg {n : ℤ} (reads : NumberField.ReadsAs d n) (nonneg : 0 ≤ n) :
    ¬ ∃ m, IsRefused d m := by
  rintro ⟨m, refused⟩
  obtain ⟨neg, reads'⟩ := isRefused_iff.1 refused
  rw [NumberField.readsAs_iff] at reads reads'
  obtain rfl := Except.ok.inj (reads.symm.trans reads')
  exact absurd neg (not_lt.2 nonneg)

/-- A field for a size reads as a field for a whole number does, where no number below zero
comes of it. -/
theorem readsAsNumber_of_nonneg (nonneg : ∀ n, Shape.readNumber d = .ok n → 0 ≤ n) :
    ReadsAsNumber d := by
  intro name default es present
  rw [Field.read_present present, Field.read_present present]
  change ((Shape.readSize d).mapError _).map _ = (Shape.readNumber d).mapError _
  rw [← Shape.map_readSize nonneg]
  cases Shape.readSize d <;> rfl

/-- What is refused is a number of minus one or less. -/
theorem exists_isRefused_iff :
    (∃ n, IsRefused d n) ↔ ∃ q, d.IsNumber q ∧ q ≤ -1 := by
  constructor
  · rintro ⟨n, refused⟩
    obtain ⟨neg, reads⟩ := isRefused_iff.1 refused
    exact (Shape.readNumber_eq_ok_iff.1 (NumberField.readsAs_iff.1 reads)).exists_le_of_neg neg
  · rintro ⟨q, number, le⟩
    obtain ⟨n, denotes⟩ := number.exists_denotes
    have reads := NumberField.readsAs_iff.2 (Shape.readNumber_eq_ok_iff.2 denotes)
    exact ⟨n, isRefused_iff.2 ⟨(denotes.sign number).1 le, reads⟩⟩

/-- A number below zero that is read as no number below zero is read as zero. -/
theorem readsAs_zero (nonneg : ∀ n, Shape.readNumber d = .ok n → 0 ≤ n) {q : ℚ}
    (number : d.IsNumber q) (below : q < 0) : NumberField.ReadsAs d 0 := by
  obtain ⟨n, denotes⟩ := number.exists_denotes
  have reads := Shape.readNumber_eq_ok_iff.2 denotes
  obtain rfl := le_antisymm ((denotes.sign number).2 below) (nonneg n reads)
  exact NumberField.readsAs_iff.2 reads

/-- **A size field refuses the numbers of minus one or less**, and with every other value it does
what a number field does. So a number below zero that it does not refuse, which is one between
minus one and zero, is read as zero. A field that takes null for a given value reads every other
value in the same way. -/
theorem refuses_iff_le_neg_one (d : Datum) :
    ((∃ n, IsRefused d n) ↔ ∃ q, d.IsNumber q ∧ q ≤ -1) ∧
      (∀ n, IsRefused d n → NumberField.ReadsAs d n) ∧
      ((∃ n, IsRefused d n) ∨
        ReadsAsNumber d ∧ ∀ q, d.IsNumber q → q < 0 → NumberField.ReadsAs d 0) ∧
      ∀ stand, d ≠ .null → ∀ (name : String) (default : Option ℕ) (es : Entries Datum),
        es.get? name = some d →
        Field.read { name, shape := .prepared (.nullAs stand) .size, default } es =
          Field.read { name, shape := .size, default } es := by
  refine ⟨exists_isRefused_iff, fun n refused => (isRefused_iff.1 refused).2, ?_, ?_⟩
  · by_cases nonneg : ∀ n, Shape.readNumber d = .ok n → 0 ≤ n
    · exact .inr ⟨readsAsNumber_of_nonneg nonneg, fun q => readsAs_zero nonneg⟩
    · push Not at nonneg
      obtain ⟨n, reads, neg⟩ := nonneg
      exact .inl ⟨n, isRefused_iff.2 ⟨neg, NumberField.readsAs_iff.2 reads⟩⟩
  · intro stand given name default es present
    rw [Field.read_present present, Field.read_present present]
    exact congrArg _ (Shape.read_nullAs given)

/-- The numeral of minus one half is read exactly. -/
theorem float?_half : Numeral.float? "-0.5" = some (.finite true (Nat.pow 2 1073)) := by
  decide +kernel

/-- The text of half of one below zero is read as zero. -/
theorem readsAs_zero_half : NumberField.ReadsAs (.text "-0.5") 0 := by
  have whole : Numeral.int? "-0.5" = none := by cbv
  have part : Binary64.truncate? (.finite true (Nat.pow 2 1073)) = some 0 := by decide +kernel
  exact NumberField.readsAs_iff.2
    (Shape.readNumber_eq_ok_iff.2 (.decimal whole float?_half part))

/-- Minus one half is a number below zero. -/
theorem exists_isNumber_half : ∃ q, Datum.IsNumber (.text "-0.5") q ∧ q < 0 := by
  have below : Binary64.isBelow (.finite true (Nat.pow 2 1073)) 0 := by decide +kernel
  exact ⟨_, .decimal float?_half rfl, Binary64.value_neg_of_isBelow rfl below⟩

/-- A text of a number below minus one is refused with its whole part, and so it is where null
stands for zero; a text of a number between minus one and zero is read as zero. -/
theorem refuses_iff_le_neg_one_texts :
    (∃ q, Datum.IsNumber (.text "-1_0.5") q ∧ q ≤ -1) ∧
      (∃ n, IsRefused (.text "-1_0.5") n ∧ NumberField.ReadsAs (.text "-1_0.5") n) ∧
      Datum.text "-1_0.5" ≠ .null ∧
      Field.read { name := "block_size", shape := .prepared (.nullAs (.int 0)) .size }
          [("block_size", .text "-1_0.5")] =
        Field.read { name := "block_size", shape := .size } [("block_size", .text "-1_0.5")] ∧
      (∃ q, Datum.IsNumber (.text "-0.5") q ∧ q < 0) ∧
      ReadsAsNumber (.text "-0.5") ∧ NumberField.ReadsAs (.text "-0.5") 0 := by
  have reads : Numeral.float? "-1_0.5" = some (.finite true (21 * Nat.pow 2 1073)) := by
    decide +kernel
  have whole : Binary64.truncate? (.finite true (21 * Nat.pow 2 1073)) = some (-10) := by
    decide +kernel
  obtain ⟨q, value⟩ := Binary64.exists_value?_iff.2 ⟨_, whole⟩
  have le : q ≤ -1 := (Binary64.truncate?_neg_iff whole value).1.1 (by decide)
  obtain ⟨refused, shown, -, orNull⟩ := refuses_iff_le_neg_one (.text "-1_0.5")
  have number : ∃ q, Datum.IsNumber (.text "-1_0.5") q ∧ q ≤ -1 := ⟨q, .decimal reads value, le⟩
  obtain ⟨n, isRefused⟩ := refused.2 number
  obtain ⟨-, -, taken, -⟩ := refuses_iff_le_neg_one (.text "-0.5")
  obtain ⟨alike, zero⟩ := taken.resolve_left (not_isRefused_of_nonneg readsAs_zero_half le_rfl)
  obtain ⟨half, isNumber, below⟩ := exists_isNumber_half
  exact ⟨number, ⟨n, isRefused, shown n isRefused⟩, nofun, orNull _ nofun _ _ _ rfl,
    ⟨half, isNumber, below⟩, alike, zero half isNumber below⟩

/-- Half of one below zero is a size of zero, also that of a partition. -/
theorem negative_fraction_is_size :
    (∃ q, Datum.IsNumber (.text "-0.5") q ∧ q < 0) ∧
      (¬ ∃ n, IsRefused (.text "-0.5") n) ∧
      (Partition.reader.readAt (Version.ofText "2.0") (.map [("resource_uri", .text "/p/"),
        ("id", .int 1), ("path", .text "/dev/sda1"), ("used_for", .text ""),
        ("size", .text "-0.5")])).toOption.map Partition.size = some 0 :=
  ⟨exists_isNumber_half, not_isRefused_of_nonneg readsAs_zero_half le_rfl, by decide +kernel⟩

end SizeField
end BareMetal
