/-
# The order of versions

Versions are ordered by epoch, then by release, where trailing zeros do not
count, then by

    development < alpha < beta < candidate < release < post-release

where a development number without a pre- and a post-release comes before all
pre-releases, and everywhere else a version with a development number comes
just before the one without it. Last come the local segments, compared one by
one: none before some, words by code point before numbers by value.

The order is that of keys made of lists of numbers, compared item by item, so it
is total and transitive; versions with one key are spellings of one version.
-/

import BareMetal.Version.Basic

namespace BareMetal

/-- The key of a segment: words come before numbers. -/
def Segment.key : Segment → List Nat
  | word s => 0 :: s.toList.map Char.toNat
  | number n => [1, n]

namespace Version

/-- The release without its trailing zeros. -/
def trimmedRelease (v : Version) : List Nat := (v.release.reverse.dropWhile (· = 0)).reverse

/-- The key of the pre-release. -/
def stageKey (v : Version) : List Nat :=
  match v.pre, v.post, v.dev with
  | some (.alpha, n), _, _ => [1, n]
  | some (.beta, n), _, _ => [2, n]
  | some (.candidate, n), _, _ => [3, n]
  | none, none, some _ => [0]
  | none, _, _ => [4]

/-- The key of the development number. -/
def devKey (v : Version) : List Nat :=
  match v.dev with
  | some n => [0, n]
  | none => [1]

/-- The key of a version: what is public, and the local segments. -/
def key (v : Version) : List (List (List Nat)) :=
  [[[v.epoch], v.trimmedRelease, v.stageKey, v.post.toList, v.devKey],
    v.locals.map Segment.key]

instance : Ord Version := ⟨fun v w => compare v.key w.key⟩

/-- `v ≤ w`: the version `v` is not newer than `w`. -/
instance : LE Version := ⟨fun v w => (compare v w).isLE⟩

/-- `v < w`: the version `v` is older than `w`. -/
instance : LT Version := ⟨fun v w => compare v w = .lt⟩

instance (v w : Version) : Decidable (v ≤ w) :=
  inferInstanceAs (Decidable ((compare v w).isLE = true))

instance (v w : Version) : Decidable (v < w) :=
  inferInstanceAs (Decidable (compare v w = .lt))

/-- Two versions are spellings of one. -/
def Same (v w : Version) : Prop := v.key = w.key

instance (v w : Version) : Decidable (v.Same w) := inferInstanceAs (Decidable (v.key = w.key))

/-- Versions are compared as their keys are. -/
theorem compare_def (v w : Version) : compare v w = compare v.key w.key := rfl

/-- A version is not newer than another if the comparison says less or equal. -/
theorem le_def (v w : Version) : v ≤ w ↔ (compare v w).isLE := Iff.rfl

/-- A version is older than another if the comparison says less. -/
theorem lt_def (v w : Version) : v < w ↔ compare v w = .lt := Iff.rfl

/-- Versions of one key are the same. -/
theorem compare_eq_eq_iff {v w : Version} : compare v w = .eq ↔ v.key = w.key := by
  rw [compare_def, Std.compare_eq_iff_eq]

/-- Comparing two versions the other way around gives the opposite answer. -/
theorem compare_swap (v w : Version) : (compare v w).swap = compare w v := by
  rw [compare_def, compare_def, ← Std.OrientedOrd.eq_swap]

end Version
end BareMetal
