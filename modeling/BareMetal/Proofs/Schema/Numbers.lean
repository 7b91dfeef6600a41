/-
# Number fields

A number field reads every spelling of a whole number as that number, exactly
(`NumberField.reads_spellings`). What it does not read is refused in one of two ways.

| value | outcome |
| --- | --- |
| a whole number | the number |
| its decimal text, up to 4300 digits | the number |
| its decimal text, longer | no finite number |
| a floating-point number with the same value | the number |
| up to `2^53`, its decimal text with `.0` behind it | the number |
| a value that is not finite, or any other text of one | no finite number |
| a text that is no numeral, or a value of any other form | no number |

Blanks around a text change nothing. They are the characters with the property White_Space, to
which the information separators do not belong.
-/

import BareMetal.Proofs.Number.Exact
import BareMetal.Proofs.Number.Spelling
import BareMetal.Proofs.Reader.Fields

namespace BareMetal
namespace NumberField

/-- A field for a whole number reads the value as `n`. -/
def ReadsAs (d : Datum) (n : ℤ) : Prop :=
  ∀ (name : String) (default : Option ℤ) (es : Entries Datum), es.get? name = some d →
    Field.read { name, shape := .number, default } es = .ok n

/-- A field for a whole number refuses the value, where another form was expected. -/
def IsRefused (d : Datum) (expected : Form) : Prop :=
  ∀ (name : String) (default : Option ℤ) (es : Entries Datum), es.get? name = some d →
    Field.read { name, shape := .number, default } es =
      .error { expected, got := d, path := [.name name] }

/-- A field reads a value as its shape does; its name and its default do not count where the
value is there. -/
theorem readsAs_iff {d : Datum} {n : ℤ} : ReadsAs d n ↔ Shape.readNumber d = .ok n := by
  constructor
  · intro h
    have reads := h "" none [("", d)] rfl
    rw [Field.read_present (d := d) rfl] at reads
    exact mapError_eq_ok_iff.1 reads
  · intro h name default es present
    rw [Field.read_present present]
    exact mapError_eq_ok_iff.2 h

/-- A field refuses a value where its shape does, and puts its name in front of the place. -/
theorem isRefused_iff {d : Datum} {expected : Form} :
    IsRefused d expected ↔ Shape.readNumber d = .error { expected, got := d } := by
  constructor
  · intro h
    have reads := h "" none [("", d)] rfl
    rw [Field.read_present (d := d) rfl] at reads
    obtain ⟨⟨form, got, path⟩, wrong, under⟩ := mapError_eq_error_iff.1 reads
    obtain ⟨rfl, rfl, path⟩ := Mismatch.mk.inj under
    obtain rfl := (List.cons.inj path).2
    exact wrong
  · intro h name default es present
    rw [Field.read_present present]
    exact mapError_eq_error_iff.2 ⟨_, h, rfl⟩

section Texts

variable {s : String} {x : Binary64}

/-- A numeral of a whole number is read as that number. -/
theorem readNumber_of_int {n : ℤ} (whole : Numeral.int? s = some n) :
    Shape.readNumber (.text s) = .ok n := by
  rw [Shape.readNumber, whole]

/-- A numeral of another number is read as its whole part. -/
theorem readNumber_of_float (fails : Numeral.int? s = none) (value : Numeral.float? s = some x) :
    Shape.readNumber (.text s) = Shape.truncated (.text s) x := by
  rw [Shape.readNumber, fails, value]

/-- A text that is no numeral is no number. -/
theorem readNumber_of_neither (fails : Numeral.int? s = none) (none : Numeral.float? s = none) :
    Shape.readNumber (.text s) = .error { expected := .number, got := .text s } := by
  rw [Shape.readNumber, fails, none]

/-- The whole part of a whole number is that number. -/
theorem truncated_of_is {n : ℤ} (value : x.Is n) (source : Datum) :
    Shape.truncated source x = .ok n := by
  rw [Shape.truncated, Binary64.truncate?_of_is value]

/-- What is not finite has no whole part, and is refused as no finite number. -/
theorem truncated_of_not_isFinite (infinite : ¬ x.IsFinite) (source : Datum) :
    Shape.truncated source x = .error { expected := .finiteNumber, got := source } := by
  rw [Shape.truncated, Binary64.truncate?_eq_none_iff.2 infinite]

/-- Blanks around a text show in a mismatch only. -/
theorem readNumber_surrounded {before after : String}
    (front : ∀ c ∈ before.toList, Text.isBlank c) (back : ∀ c ∈ after.toList, Text.isBlank c) :
    Shape.readNumber (.text (before ++ s ++ after)) = (Shape.readNumber (.text s)).mapError
      fun m => { m with got := .text (before ++ s ++ after) } := by
  rw [Shape.readNumber, Shape.readNumber, Numeral.int?_surrounded front back,
    Numeral.float?_surrounded front back]
  cases Numeral.int? s with
  | some n => rfl
  | none =>
    cases Numeral.float? s with
    | none => rfl
    | some x =>
      dsimp only
      rw [Shape.truncated, Shape.truncated]
      cases x.truncate? <;> rfl

/-- A mismatch of a text shows that text. -/
theorem got_of_readNumber_text {m : Mismatch} (h : Shape.readNumber (.text s) = .error m) :
    m = { expected := m.expected, got := .text s } := by
  rw [Shape.readNumber] at h
  split at h
  · cases h
  · split at h
    · rw [Shape.truncated] at h
      split at h <;> cases h
      rfl
    · cases h
      rfl

end Texts

/-- The spellings of a whole number. -/
inductive Spells (n : ℤ) : Datum → Prop
  | whole : Spells n (.int n)
  | text (short : Number.decimalLength n.natAbs ≤ Numeral.digitLimit) :
      Spells n (.text (toString n))
  | float {x : Binary64} (value : x.Is n) : Spells n (.float x)
  | point (small : n.natAbs ≤ 2 ^ 53) : Spells n (.text (toString n ++ ".0"))

/-- What spells no whole number, and the form that is missed. -/
inductive Misses : Datum → Form → Prop
  | long {n : ℤ} (long : Numeral.digitLimit < Number.decimalLength n.natAbs) :
      Misses (.text (toString n)) .finiteNumber
  | infinite {x : Binary64} (infinite : ¬ x.IsFinite) : Misses (.float x) .finiteNumber
  | infiniteText {s : String} {x : Binary64} (fails : Numeral.int? s = none)
      (value : Numeral.float? s = some x) (infinite : ¬ x.IsFinite) : Misses (.text s) .finiteNumber
  | word {s : String} (fails : Numeral.int? s = none) (none : Numeral.float? s = none) :
      Misses (.text s) .number
  | other {d : Datum} (int : ∀ n, d ≠ .int n) (float : ∀ x, d ≠ .float x)
      (text : ∀ s, d ≠ .text s) : Misses d .number

/-- Every spelling of a whole number is read as that number. -/
theorem Spells.readNumber {n : ℤ} {d : Datum} (h : Spells n d) : Shape.readNumber d = .ok n := by
  cases h with
  | whole => rfl
  | text short => exact readNumber_of_int ((Numeral.int?_toString n).trans (if_pos short))
  | float value => exact truncated_of_is value _
  | point small =>
    rw [readNumber_of_float (Numeral.int?_toString_point n) (Numeral.float?_toString_point n),
      Binary64.ofDecimal_of_le _ small]
    exact truncated_of_is (Binary64.is_finite_natAbs n) _

/-- What misses a whole number is refused, where that form was expected. -/
theorem Misses.readNumber {d : Datum} {expected : Form} (h : Misses d expected) :
    Shape.readNumber d = .error { expected, got := d } := by
  cases h with
  | @long n long =>
    have fails : Numeral.int? (toString n) = none :=
      (Numeral.int?_toString n).trans (if_neg (Nat.not_le_of_lt long))
    have infinite : Binary64.ofDecimal (n < 0) n.natAbs 0 = .infinite (n < 0) :=
      Binary64.ofDecimal_of_long _ (Nat.lt_trans (by decide) long)
    rw [readNumber_of_float fails (Numeral.float?_toString n), infinite]
    exact truncated_of_not_isFinite id _
  | infinite infinite => exact truncated_of_not_isFinite infinite _
  | infiniteText fails value infinite =>
    rw [readNumber_of_float fails value]
    exact truncated_of_not_isFinite infinite _
  | word fails none => exact readNumber_of_neither fails none
  | other int float text =>
    unfold Shape.readNumber
    split
    · exact absurd rfl (int _)
    · exact absurd rfl (float _)
    · exact absurd rfl (text _)
    · rfl

/-- **A number field reads every spelling of a whole number as that number**, and refuses what
spells none as the form that it misses. Up to `2^53` one of the spellings is the floating-point
number that the whole number is converted to. Blanks around a text change neither what is read
nor what is missed. -/
theorem reads_spellings :
    (∀ n d, Spells n d → ReadsAs d n) ∧
      (∀ n : ℤ, n.natAbs ≤ 2 ^ 53 → ∃ x, Binary64.ofInt? n = some x ∧ Spells n (.float x)) ∧
      (∀ d expected, Misses d expected → IsRefused d expected) ∧
      (∀ s before after : String, (∀ c ∈ before.toList, Text.isBlank c) →
        (∀ c ∈ after.toList, Text.isBlank c) →
        (∀ n, ReadsAs (.text (before ++ s ++ after)) n ↔ ReadsAs (.text s) n) ∧
          ∀ expected, IsRefused (.text (before ++ s ++ after)) expected ↔
            IsRefused (.text s) expected) := by
  refine ⟨fun n d h => readsAs_iff.2 h.readNumber, fun n small => ?_,
    fun d expected h => isRefused_iff.2 h.readNumber, fun s before after front back => ⟨?_, ?_⟩⟩
  · exact ⟨_, Binary64.ofInt?_of_le small, .float (Binary64.is_finite_natAbs n)⟩
  · intro n
    rw [readsAs_iff, readsAs_iff, readNumber_surrounded front back, mapError_eq_ok_iff]
  · intro expected
    rw [isRefused_iff, isRefused_iff, readNumber_surrounded front back, mapError_eq_error_iff]
    constructor
    · rintro ⟨m, wrong, shown⟩
      rw [wrong, got_of_readNumber_text wrong, (Mismatch.mk.inj shown).1]
    · intro wrong
      exact ⟨_, wrong, rfl⟩

/-- The first whole number that no float is equal to, with blanks around it, is read exactly;
the first text that is too long and a number that is too great are refused. -/
theorem reads_spellings_hard :
    ReadsAs (.text ("\u2003" ++ toString (2 ^ 53 + 1 : ℤ) ++ "\n")) (2 ^ 53 + 1) ∧
      IsRefused (.text (toString ((10 : ℤ) ^ Numeral.digitLimit))) .finiteNumber ∧
      IsRefused (.text "1e400") .finiteNumber ∧ IsRefused (.bool true) .number := by
  obtain ⟨reads, -, refuses, blanks⟩ := reads_spellings
  have front : ∀ c ∈ "\u2003".toList, Text.isBlank c := by simp [Text.isBlank]
  have back : ∀ c ∈ "\n".toList, Text.isBlank c := by simp [Text.isBlank]
  have short : Number.decimalLength (2 ^ 53 + 1 : ℤ).natAbs ≤ Numeral.digitLimit := by decide
  have whole : Numeral.int? "1e400" = none := by cbv
  have great : Numeral.float? "1e400" = some (.infinite false) := by cbv
  exact ⟨((blanks _ _ _ front back).1 _).2 (reads _ _ (.text short)),
    refuses _ _ (.long (Numeral.lt_decimalLength_pow _)),
    refuses _ _ (.infiniteText whole great id),
    refuses _ _ (.other (by simp) (by simp) (by simp))⟩

end NumberField
end BareMetal
