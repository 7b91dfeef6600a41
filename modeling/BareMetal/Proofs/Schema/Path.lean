/-
# The path in the text of a mismatch

The text of a mismatch is to begin with its path, written as its steps one after the other without
the point of a name in front (`Mismatch.written`). But all points in front are taken away, not that
one alone. So the path is shown as it is written exactly if what is written does not begin with a
point itself (`Mismatch.shows_path_iff`), as in every map that is read for an entity.

| path | written | shown |
| --- | --- | --- |
| name `tags`, index 1 | `tags[1]` | `tags[1]` |
| name `.a` | `.a` | `a` |
| empty name, name `a` | `.a` | `a` |
| name `..` | `..` | nothing |
-/

import BareMetal.Proofs.Wire.Location
import BareMetal.Proofs.Schema.Place

namespace BareMetal
namespace Mismatch

/-- A path as it is to be written. -/
def written : List Step → List Char
  | .name s :: path => s.toList ++ path.flatMap Step.text
  | path => path.flatMap Step.text

/-- What is written begins with a point: that of a first name, or that in front of a second name
behind an empty one. -/
inductive BeginsWithPoint : List Step → Prop
  | inName {s : String} {path : List Step} (first : s.toList.head? = some '.') :
      BeginsWithPoint (.name s :: path)
  | behind {s : String} {path : List Step} : BeginsWithPoint (.name "" :: .name s :: path)

/-- A path is written with a point in front exactly if it begins with one in one of the two
ways. -/
theorem head?_written_iff {path : List Step} :
    (written path).head? = some '.' ↔ BeginsWithPoint path := by
  cases path with
  | nil => exact iff_of_false nofun nofun
  | cons step path =>
    cases step with
    | index i => exact iff_of_false (by simp [written, Step.text]) nofun
    | name s =>
      by_cases empty : s = ""
      · subst empty
        cases path with
        | nil =>
          refine iff_of_false (by simp [written]) ?_
          rintro ⟨first⟩
          cases first
        | cons step path =>
          cases step with
          | name t => exact iff_of_true rfl .behind
          | index i =>
            refine iff_of_false (by simp [written, Step.text]) ?_
            rintro ⟨first⟩
            cases first
      · obtain ⟨c, cs, chars⟩ : ∃ c cs, s.toList = c :: cs :=
          List.exists_cons_of_ne_nil (by simpa using empty)
        have first : (written (.name s :: path)).head? = s.toList.head? := by
          rw [written, chars]
          rfl
        rw [first]
        constructor
        · exact .inName
        · rintro (first | -)
          · exact first
          · exact absurd rfl empty

/-- The text of a path is what is to be written, without the points in front of it. -/
theorem pathText_eq {path : List Step} (inside : path ≠ []) :
    pathText path = (written path).dropWhile (· = '.') ++ [':', ' '] := by
  cases path with
  | nil => exact absurd rfl inside
  | cons step path => cases step <;> rfl

/-- The text of the mismatch shows `p` as its path. -/
def IsShownAt (m : Mismatch) (p : List Char) : Prop :=
  m.message.toList = p ++ [':', ' '] ++ s!"expected {m.expected.name}, got {m.got.describe}".toList

variable {m m' : Mismatch}

/-- A mismatch shows its path as it is to be written, without the points in front of it. -/
theorem isShownAt_written (inside : m.path ≠ []) :
    m.IsShownAt ((written m.path).dropWhile (· = '.')) := by
  rw [IsShownAt, message, String.toList_append, String.toList_ofList, pathText_eq inside]

/-- A mismatch shows one path. -/
theorem IsShownAt.unique {p q : List Char} (h : m.IsShownAt p) (h' : m.IsShownAt q) : p = q :=
  List.append_cancel_right (List.append_cancel_right (h.symm.trans h'))

/-- What is left of a path that begins with a point does not begin like the path. -/
theorem written_prefix_iff (inside : m.path ≠ []) :
    written m.path ++ [':', ' '] <+: m.message.toList ↔ ¬ BeginsWithPoint m.path := by
  rw [← head?_written_iff, isShownAt_written inside]
  generalize written m.path = path
  cases path with
  | nil => exact iff_of_true (List.prefix_append _ _) nofun
  | cons c cs =>
    by_cases point : c = '.'
    · refine iff_of_false (fun ⟨rest, begins⟩ => ?_) (not_not.2 (congrArg some point))
      have next := List.head?_dropWhile_not (fun c => decide (c = '.')) (c :: cs)
      cases left : (c :: cs).dropWhile (fun c => decide (c = '.')) with
      | nil =>
        rw [left] at begins
        exact absurd (point.symm.trans (List.cons.inj begins).1) (by decide)
      | cons d ds =>
        rw [left] at begins next
        obtain rfl := (List.cons.inj begins).1
        simp [point] at next
    · rw [List.dropWhile_cons_of_neg (by simpa using point)]
      exact iff_of_true (List.prefix_append _ _) fun first => point (Option.some.inj first)

/-- A map with values of one shape fails at one of its names. -/
theorem exists_name_of_read_map {item : Shape} {es : Entries Datum}
    (h : (Shape.map item).read (.map es) = .error m) :
    ∃ k d m', (k, d) ∈ es ∧ item.read d = .error m' ∧ m = m'.under (.name k) := by
  obtain ⟨before, k, d, after, m', rfl, wrong, rfl, -⟩ := Shape.exists_of_readEntries_eq_error h
  exact ⟨k, d, m', by simp, wrong, rfl⟩

/-- In a map of texts a mismatch has no place but the name. -/
theorem path_of_read_texts {es : Entries Datum} (h : (Shape.map .text).read (.map es) = .error m) :
    ∃ k, m.path = [.name k] := by
  obtain ⟨k, d, m', -, wrong, rfl⟩ := exists_name_of_read_map h
  cases d with
  | text s => cases wrong
  | _ =>
    cases wrong
    exact ⟨k, rfl⟩

end Mismatch

/-- The name of a field of an entity is not empty and does not begin with a point. -/
theorem Kind.first_of_name (k : Kind) :
    ∀ w ∈ k.wireFields, w.name.toList.head?.any (· ≠ '.') := by
  cases k <;> decide

/-- No path into the fields of an entity begins with a point when it is written. -/
theorem Kind.not_beginsWithPoint (k : Kind) {d : Datum} {m : Mismatch}
    (h : k.schema.read d = .error m) : ¬ Mismatch.BeginsWithPoint m.path := by
  cases d with
  | map es =>
    obtain ⟨w, mem, path, place⟩ := exists_of_readEntries_eq_error k.schema_reads h
    obtain ⟨c, first, other⟩ := (Option.any_eq_true _ _).1 (k.first_of_name w mem)
    rw [← Mismatch.head?_written_iff, place, Mismatch.written, List.head?_append, first]
    exact fun point => of_decide_eq_true other (Option.some.inj point)
  | _ =>
    cases h
    nofun

namespace Mismatch

/-- **A path is shown as it is written** exactly if it does not begin with a point when it is
written: the text of a mismatch then begins with it, and otherwise shows what is left of it without
any points in front. So two names in maps of texts are shown as one path exactly if they differ in
the points in front alone. In the fields of an entity no path begins with a point. -/
theorem shows_path_iff (m : Mismatch) (inside : m.path ≠ []) :
    (written m.path ++ [':', ' '] <+: m.message.toList ↔ ¬ BeginsWithPoint m.path) ∧
      m.IsShownAt ((written m.path).dropWhile (· = '.')) ∧
      (∀ es, (Shape.map .text).read (.map es) = .error m →
        ∀ es' m', (Shape.map .text).read (.map es') = .error m' →
          ∃ k k', m.path = [.name k] ∧ m'.path = [.name k'] ∧
            ((∃ p, m.IsShownAt p ∧ m'.IsShownAt p) ↔
              k.toList.dropWhile (· = '.') = k'.toList.dropWhile (· = '.'))) ∧
      ∀ (k : Kind) (d : Datum), k.schema.read d = .error m → ¬ BeginsWithPoint m.path := by
  refine ⟨written_prefix_iff inside, isShownAt_written inside, ?_,
    fun k d => k.not_beginsWithPoint⟩
  intro es wrong es' m' wrong'
  obtain ⟨k, place⟩ := path_of_read_texts wrong
  obtain ⟨k', place'⟩ := path_of_read_texts wrong'
  have name {m : Mismatch} {k : String} (place : m.path = [.name k]) :
      m.IsShownAt (k.toList.dropWhile (· = '.')) := by
    have shown := isShownAt_written (m := m) (by rw [place]; nofun)
    rwa [place, written, List.flatMap_nil, List.append_nil] at shown
  refine ⟨k, k', place, place', fun ⟨p, shown, shown'⟩ => ?_, fun same => ⟨_, name place, ?_⟩⟩
  · exact ((name place).unique shown).trans (shown'.unique (name place'))
  · rw [same]
    exact name place'

/-- Two names with points in front that differ in what follows, and a field that is absent. -/
theorem shows_path_iff_points :
    (∃ m m', (Shape.map .text).read (.map [("ok", .text ""), ("..a", .int 3)]) = .error m ∧
      (Shape.map .text).read (.map [(".b", .null)]) = .error m' ∧ m.path ≠ [] ∧
      ¬ (written m.path ++ [':', ' '] <+: m.message.toList) ∧ m.IsShownAt ['a'] ∧
      ¬ ∃ p, m.IsShownAt p ∧ m'.IsShownAt p) ∧
      ∃ m, Kind.partition.schema.read (.map []) = .error m ∧ m.path ≠ [] ∧
        ¬ BeginsWithPoint m.path := by
  have wrong : (Shape.map .text).read (.map [("ok", .text ""), ("..a", .int 3)]) =
      .error ⟨.text, .int 3, [.name "..a"]⟩ := rfl
  have wrong' : (Shape.map .text).read (.map [(".b", .null)]) =
      .error ⟨.text, .null, [.name ".b"]⟩ := rfl
  have absent : Kind.partition.schema.read (.map []) =
      .error ⟨.text, .null, [.name "resource_uri"]⟩ := rfl
  obtain ⟨begins, stripped, texts, -⟩ := shows_path_iff ⟨.text, .int 3, [.name "..a"]⟩ nofun
  obtain ⟨-, -, -, fields⟩ := shows_path_iff ⟨.text, .null, [.name "resource_uri"]⟩ nofun
  obtain ⟨k, k', place, place', same⟩ := texts _ wrong _ _ wrong'
  cases place
  cases place'
  exact ⟨⟨_, _, wrong, wrong', nofun, mt begins.1 (not_not.2 (.inName rfl)), stripped,
    mt same.1 (by decide)⟩, _, absent, nofun, fields .partition _ absent⟩

/-- A name that begins with a point is shown without it, and so as another name is. -/
theorem points_in_front_are_lost :
    ∃ m m', (Shape.map .text).read (.map [("a", .int 1)]) = .error m ∧
      (Shape.map .text).read (.map [(".a", .int 1)]) = .error m' ∧
      m.message = "a: expected string, got int(1)" ∧
      m'.message = "a: expected string, got int(1)" ∧
      ¬ (written m'.path ++ [':', ' '] <+: m'.message.toList) := by
  refine ⟨⟨.text, .int 1, [.name "a"]⟩, ⟨.text, .int 1, [.name ".a"]⟩, rfl, rfl, by cbv, by cbv, ?_⟩
  rw [written_prefix_iff (List.cons_ne_nil _ _), not_not]
  exact .inName rfl

end Mismatch
end BareMetal
