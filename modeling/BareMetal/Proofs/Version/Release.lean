/-
# The release of a version on its own

A version can be named by its release alone, with zeros for the numbers up to the third that it
does not have. That name is the text of a version too (`ofText_releaseText`), and what it leaves
out decides which of the two is newer:

| left out | the release alone |
| --- | --- |
| an epoch | is older |
| a pre-release, or a development number without a post-release | is newer |
| a post-release | is older |
| local segments | is older |

The first row that applies counts (`released_le_iff`).
-/

import BareMetal.Proofs.Number.Spelling
import BareMetal.Proofs.Version.Order
import BareMetal.Version.Registry

namespace BareMetal

open Numeral (digits IsDecimal)

namespace Version

/-! ### Numbers with points between them -/

variable {c : Char} {cs ds first rest : List Char} {more rows : List (List Char)}

/-- A digit in front belongs to the first number. -/
theorem takeRelease_cons_of_isDigit (digit : c.isDigit)
    (behind : takeRelease cs = (first :: more, rest)) :
    takeRelease (c :: cs) = ((c :: first) :: more, rest) := by
  rw [takeRelease.eq_def]
  dsimp only
  rw [if_pos digit, behind]

/-- A point with a digit behind it begins a further number. -/
theorem takeRelease_point (digit : c.isDigit) (behind : takeRelease (c :: cs) = (more, rest)) :
    takeRelease ('.' :: c :: cs) = ([] :: more, rest) := by
  rw [takeRelease.eq_def]
  dsimp only
  rw [if_neg (by decide), if_pos rfl, if_pos digit, behind]

/-- Digits in front belong to the first number; the induction is on the digits. -/
theorem takeRelease_append (numeral : ∀ d ∈ ds, d.isDigit)
    (behind : takeRelease cs = (first :: more, rest)) :
    takeRelease (ds ++ cs) = ((ds ++ first) :: more, rest) := by
  induction ds with
  | nil => exact behind
  | cons d ds ih =>
    rw [List.forall_mem_cons] at numeral
    exact takeRelease_cons_of_isDigit numeral.1 (ih numeral.2)

/-- There is an epoch only where there is its mark. -/
theorem takeEpoch_of_not_mem (h : '!' ∉ cs) : takeEpoch cs = (none, cs) := by
  unfold takeEpoch
  split
  · next behind =>
    have mark : '!' ∈ cs.dropWhile Char.isDigit := by
      rw [show cs.dropWhile Char.isDigit = _ from congrArg Prod.snd behind]
      exact List.mem_cons_self
    exact absurd ((List.dropWhile_sublist _).subset mark) h
  · rfl

/-- A row of digits. -/
structure IsNumeral (ds : List Char) : Prop where
  ne_nil : ds ≠ []
  isDigit : ∀ d ∈ ds, d.isDigit

/-- Rows of digits with points between them. -/
def pointed (rows : List (List Char)) : List Char := ['.'].intercalate rows

/-- One row of digits is written without a point. -/
theorem pointed_singleton (ds : List Char) : pointed [ds] = ds := List.intercalate_singleton

/-- A point stands between the first row of digits and the others. -/
theorem pointed_cons (ds : List Char) (more : rows ≠ []) :
    pointed (ds :: rows) = ds ++ '.' :: pointed rows := by
  rw [pointed, List.intercalate_cons_of_ne_nil more, List.append_assoc]
  rfl

section Pointed

variable (numerals : ∀ ds ∈ rows, IsNumeral ds)
include numerals

/-- Rows of digits with points between them have only characters of decimal numerals. -/
theorem isDecimal_of_mem_pointed : ∀ c ∈ pointed rows, IsDecimal c := by
  induction rows with
  | nil => simp [pointed]
  | cons ds rows ih =>
    rw [List.forall_mem_cons] at numerals
    have front : ∀ c ∈ ds, IsDecimal c := fun c hc => .inl (numerals.1.isDigit c hc)
    rcases eq_or_ne rows [] with rfl | filled
    · rwa [pointed_singleton]
    · rw [pointed_cons ds filled, List.forall_mem_append, List.forall_mem_cons]
      exact ⟨front, .inr (.inr rfl), ih numerals.2⟩

/-- Rows of digits with points between them begin with a digit. -/
theorem exists_pointed_eq_cons (filled : rows ≠ []) :
    ∃ c cs, pointed rows = c :: cs ∧ c.isDigit := by
  obtain ⟨ds, rows, rfl⟩ := List.exists_cons_of_ne_nil filled
  rw [List.forall_mem_cons] at numerals
  obtain ⟨d, ds, rfl⟩ := List.exists_cons_of_ne_nil numerals.1.ne_nil
  exact ⟨d, _, List.intercalate_cons_cons_left, numerals.1.isDigit d List.mem_cons_self⟩

/-- Rows of digits with points between them are taken to their end, row by row. -/
theorem takeRelease_pointed (filled : rows ≠ []) : takeRelease (pointed rows) = (rows, []) := by
  induction rows with
  | nil => exact absurd rfl filled
  | cons ds rows ih =>
    rw [List.forall_mem_cons] at numerals
    rcases eq_or_ne rows [] with rfl | more
    · have alone : takeRelease [] = ([[]], []) := rfl
      simpa [pointed_singleton] using takeRelease_append numerals.1.isDigit alone
    · obtain ⟨c, cs, first, digit⟩ := exists_pointed_eq_cons numerals.2 more
      have behind : takeRelease ('.' :: c :: cs) = ([] :: rows, []) :=
        takeRelease_point digit (first ▸ ih numerals.2 more)
      rw [pointed_cons ds more, first]
      simpa using takeRelease_append numerals.1.isDigit behind

/-- Rows of digits with points between them spell a release and no other part. -/
theorem spelling?_pointed (filled : rows ≠ []) : spelling? (pointed rows) =
    some ⟨none, rows, none, none, none, []⟩ := by
  have decimal := isDecimal_of_mem_pointed numerals
  have inner : ∀ c ∈ pointed rows, ¬ Text.isSpacing c :=
    fun c hc => Numeral.not_isSpacing (decimal c hc)
  have noEpoch : '!' ∉ pointed rows := fun h => absurd (decimal _ h) (by unfold IsDecimal; decide)
  obtain ⟨c, cs, first, digit⟩ := exists_pointed_eq_cons numerals filled
  have noPrefix : dropWord? ['v'] (pointed rows) = none := by
    rw [first, dropWord?, Numeral.lowerAscii_of_isDigit digit, if_neg]
    rintro rfl
    exact absurd digit (by decide)
  have noneEmpty : ¬ rows.any List.isEmpty := by
    rw [List.any_eq_true]
    rintro ⟨ds, hds, empty⟩
    exact (numerals ds hds).ne_nil (List.isEmpty_iff.1 empty)
  rw [spelling?, Text.trim_eq_self_of_forall inner]
  dsimp only
  rw [noPrefix, Option.getD_none, takeEpoch_of_not_mem noEpoch]
  dsimp only
  rw [takeRelease_pointed numerals filled]
  dsimp only
  rw [if_neg noneEmpty]
  rfl

end Pointed

/-! ### Releases that texts spell -/

/-- Only digits are taken, from any text: whatever else comes is left behind. -/
theorem forall_isDigit_takeRelease (cs : List Char) :
    ∀ ds ∈ (takeRelease cs).1, ∀ d ∈ ds, d.isDigit := by
  have none : ∀ ds ∈ [([] : List Char)], ∀ d ∈ ds, d.isDigit := by simp
  induction cs with
  | nil => exact none
  | cons c cs ih =>
    rw [takeRelease.eq_def]
    dsimp only
    split
    · next digit =>
      cases behind : takeRelease cs with
      | mk rows rest =>
        rw [behind] at ih
        cases rows with
        | nil => simpa using digit
        | cons ds more =>
          rw [List.forall_mem_cons] at ih ⊢
          exact ⟨List.forall_mem_cons.2 ⟨digit, ih.1⟩, ih.2⟩
    · split
      · cases cs with
        | nil => exact none
        | cons d cs =>
          dsimp only
          split
          · exact List.forall_mem_cons.2 ⟨nofun, ih⟩
          · exact none
      · exact none

/-- There is always a row, if only an empty one. -/
theorem takeRelease_ne_nil (cs : List Char) : (takeRelease cs).1 ≠ [] := by
  fun_cases takeRelease cs <;> simp_all

/-- The release that a text spells is one row of digits or more. -/
theorem isNumeral_of_spelling? {text : List Char} {s : Spelling} (h : spelling? text = some s) :
    s.release ≠ [] ∧ ∀ ds ∈ s.release, IsNumeral ds := by
  unfold spelling? at h
  dsimp only at h
  split at h
  · cases h
  · next full =>
    split at h
    · cases h
      refine ⟨takeRelease_ne_nil _, fun ds hds => ⟨?_, forall_isDigit_takeRelease _ ds hds⟩⟩
      rintro rfl
      exact full (List.any_eq_true.2 ⟨[], hds, rfl⟩)
    · cases h

/-- What every text of a version has as its release: one number or more, none of them with more
digits than a numeral may have. -/
structure IsRelease (ns : List ℕ) : Prop where
  ne_nil : ns ≠ []
  short : ∀ n ∈ ns, Number.decimalLength n ≤ Numeral.digitLimit

/-- The release of a version that was read is one number or more, none of them too long. -/
theorem isRelease_of_ofText {text : String} {v : Version} (parses : ofText text = .ok v) :
    IsRelease v.release := by
  unfold ofText parse at parses
  cases spelled : spelling? text.toList with
  | none => simp [spelled] at parses
  | some s =>
    obtain ⟨filled, numerals⟩ := isNumeral_of_spelling? spelled
    cases long : s.numerals.find? (Numeral.digitLimit < ·.length) with
    | some ds => simp [spelled, long] at parses
    | none =>
      obtain rfl : s.version = v := by simpa [spelled, long] using parses
      refine ⟨by simpa [Spelling.version] using filled, ?_⟩
      intro n hn
      obtain ⟨ds, hds, rfl⟩ := List.mem_map.1 hn
      have short : ds.length ≤ Numeral.digitLimit := by
        simpa using List.find?_eq_none.1 long ds (by simp [Spelling.numerals, hds])
      rw [Number.decimalLength, Nat.length_toDigits_le_iff (by decide) (by decide)]
      exact Nat.lt_of_lt_of_le (Numeral.ofDigits_lt (numerals ds hds).isDigit)
        (Nat.pow_le_pow_right (by decide) short)

/-- A release is written in the digits of its numbers, with points between them. -/
theorem toList_dotted (ns : List ℕ) : (dotted ns).toList = pointed (ns.map digits) := by
  have rows : (ns.map toString).map String.toList = ns.map digits := by
    rw [List.map_map]
    exact List.map_congr_left fun n _ => Nat.toList_repr
  rw [dotted, String.toList_intercalate, rows]
  rfl

/-- **The text of a release is read back** as the version of that release alone. -/
theorem ofText_dotted {ns : List ℕ} (release : IsRelease ns) :
    ofText (dotted ns) = .ok { release := ns } := by
  have numerals : ∀ ds ∈ ns.map digits, IsNumeral ds := by
    intro ds hds
    obtain ⟨n, -, rfl⟩ := List.mem_map.1 hds
    exact ⟨Nat.toDigits_ne_nil, Numeral.isDigit_of_mem_digits n⟩
  have spelled := spelling?_pointed numerals (by simpa using release.ne_nil)
  have short : (ns.map digits).find? (Numeral.digitLimit < ·.length) = none := by
    rw [List.find?_eq_none]
    intro ds hds
    obtain ⟨n, hn, rfl⟩ := List.mem_map.1 hds
    simpa [Number.decimalLength] using release.short n hn
  have values : (ns.map digits).map Numeral.ofDigits = ns := by
    rw [List.map_map]
    exact (List.map_congr_left fun n _ => Numeral.ofDigits_digits n).trans (List.map_id ns)
  rw [ofText, parse, toList_dotted, spelled]
  simp [Spelling.numerals, Spelling.version, short, values]

/-! ### What a release leaves out -/

/-- The version that a version is named by: its release, with three numbers at least, and nothing
else. -/
def released (v : Version) : Version where
  release := v.release ++ List.replicate (3 - v.release.length) 0

/-- The release alone has the name of the version. -/
theorem releaseText_released (v : Version) : v.released.releaseText = v.releaseText := by
  have full : 3 - v.released.release.length = 0 := by simp [released]; omega
  rw [releaseText, full]
  simp [released, releaseText]

/-- The zeros that are put behind a release do not count. -/
theorem trimmedRelease_released (v : Version) : v.released.trimmedRelease = v.trimmedRelease := by
  rw [trimmedRelease, released, List.reverse_append, List.reverse_replicate,
    List.dropWhile_append_of_pos (by simp), trimmedRelease]

/-- A pre-release, or a development version that leads to no post-release: it comes before its
release. -/
def IsPreliminary (v : Version) : Prop := v.pre.isSome ∨ v.post = none ∧ v.dev.isSome

instance (v : Version) : Decidable v.IsPreliminary := inferInstanceAs (Decidable (_ ∨ _))

/-- The parts that are left out, from the one that counts first. -/
theorem compare_released (v : Version) : compare v.released v =
    (compare 0 v.epoch).then ((compare [4] v.stageKey).then ((compare [] v.post.toList).then
      ((compare [1] v.devKey).then (compare [] (v.locals.map Segment.key))))) := by
  have nothing {α : Type} [Ord α] : compare ([] : List α) [] = .eq := by
    rw [List.compare_eq_compareLex, List.compareLex_nil_nil]
  rw [compare_def, key, key, trimmedRelease_released]
  simp only [List.compare_cons_cons, nothing, Ordering.then_assoc, Ordering.then_eq,
    Std.compare_self]
  simp [released, stageKey, devKey]

/-- The stage of a release alone is behind a preliminary stage, and the same as any other. -/
theorem compare_stageKey (v : Version) :
    compare [4] v.stageKey = if v.IsPreliminary then .gt else .eq := by
  obtain ⟨epoch, release, pre, post, dev, locals⟩ := v
  cases pre with
  | some p =>
    obtain ⟨stage, n⟩ := p
    cases stage <;> rfl
  | none => cases post <;> cases dev <;> rfl

/-- The release alone is not newer exactly if an epoch is left out, or nothing preliminary. -/
theorem released_le_iff {v : Version} : v.released ≤ v ↔ v.epoch ≠ 0 ∨ ¬ v.IsPreliminary := by
  rw [le_def, compare_released, compare_stageKey]
  rcases Nat.eq_zero_or_pos v.epoch with zero | pos
  · rw [zero]
    by_cases preliminary : v.IsPreliminary
    · simp [preliminary]
    · rw [if_neg preliminary]
      -- what stands behind the stage can only make the version newer
      have later : ((compare [] v.post.toList).then
          ((compare [1] v.devKey).then (compare [] (v.locals.map Segment.key)))).isLE := by
        cases post : v.post with
        | some n => rfl
        | none =>
          have dev : v.dev = none := by simpa [IsPreliminary, post] using (not_or.1 preliminary).2
          rw [devKey, dev]
          exact List.isLE_compareLex_nil_left
      simpa [preliminary] using later
  · rw [Nat.compare_eq_lt.2 pos]
    simp [Nat.pos_iff_ne_zero.1 pos]

/-- The release alone is one that texts spell, if that of the version is. -/
theorem isRelease_released {v : Version} (release : IsRelease v.release) :
    IsRelease v.released.release := by
  refine ⟨by simp [released, release.ne_nil], fun n hn => ?_⟩
  rcases List.mem_append.1 hn with hn | hn
  · exact release.short n hn
  · obtain rfl := List.eq_of_mem_replicate hn
    decide

/-- The name of a version that a text spells is itself the text of a version. -/
theorem ofText_releaseText {text : String} {v : Version} (parses : ofText text = .ok v) :
    ofText v.releaseText = .ok v.released :=
  ofText_dotted (isRelease_released (isRelease_of_ofText parses))

end Version
end BareMetal
