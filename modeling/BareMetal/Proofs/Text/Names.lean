/-
# Names with commas between them

A text is split into what stands between two separators that follow each other, or between one
and an end of the text (`Text.mem_split_iff`), and two texts with a separator between them into the
pieces of both (`Text.split_append_cons`). A list of names that are not empty, without commas and
without spacing at their ends can be written as one text with commas in between, and is read from
it again (`BootResource.subarchNames_intercalate`).
-/

import BareMetal.Asset.BootResource
import BareMetal.Proofs.Text.Trim
import Mathlib.Data.List.Basic

namespace BareMetal

namespace Text

/-- A text without the separator is one piece. -/
theorem split_of_not_mem {sep : Char} {cs : List Char} (h : sep ∉ cs) : split sep cs = [cs] := by
  induction cs with
  | nil => rfl
  | cons c cs ih =>
    rw [List.mem_cons, not_or] at h
    simp [split, ih h.2, Ne.symm h.1]

/-- What stands before a separator and what stands after it are taken apart on their own. -/
theorem split_append_cons (sep : Char) (cs rest : List Char) :
    split sep (cs ++ sep :: rest) = split sep cs ++ split sep rest := by
  induction cs with
  | nil => simp [split]
  | cons c cs ih =>
    by_cases hc : c = sep
    · simp [split, hc, ih]
    · obtain ⟨piece, pieces, h⟩ := List.exists_cons_of_ne_nil (split_ne_nil sep cs)
      simp [split, hc, ih, h]

/-- A text without the separator in front of one is the first piece. -/
theorem split_append {sep : Char} {cs : List Char} (h : sep ∉ cs) (rest : List Char) :
    split sep (cs ++ sep :: rest) = cs :: split sep rest := by
  rw [split_append_cons, split_of_not_mem h, List.singleton_append]

/-- Pieces without the separator are got back from what is written with it in between. -/
theorem split_intercalate {sep : Char} {pieces : List (List Char)} (some : pieces ≠ [])
    (free : ∀ p ∈ pieces, sep ∉ p) : split sep ([sep].intercalate pieces) = pieces := by
  induction pieces with
  | nil => exact absurd rfl some
  | cons p pieces ih =>
    rw [List.forall_mem_cons] at free
    cases pieces with
    | nil => rw [List.intercalate_singleton, split_of_not_mem free.1]
    | cons q pieces =>
      rw [List.intercalate_cons_cons, List.append_assoc, List.singleton_append,
        split_append free.1, ih (by simp) free.2]

/-- The piece holds no separator, and stands in the text between two of them or between one and an
end of the text. -/
structure IsPiece (sep : Char) (cs piece : List Char) : Prop where
  free : sep ∉ piece
  place : ∃ front back, cs = front ++ piece ++ back ∧
    (front = [] ∨ ∃ before, front = before ++ [sep]) ∧
    (back = [] ∨ ∃ after, back = sep :: after)

/-- A piece is among those that the text is split into. -/
theorem IsPiece.mem_split {sep : Char} {cs piece : List Char} (h : IsPiece sep cs piece) :
    piece ∈ split sep cs := by
  obtain ⟨free, _, _, rfl, front, back⟩ := h
  have own : split sep piece = [piece] := split_of_not_mem free
  rcases front with rfl | ⟨before, rfl⟩ <;> rcases back with rfl | ⟨after, rfl⟩ <;>
    simp [split_append_cons, own]

/-- A text is split into its pieces. The first separator divides it into a piece and a shorter
text. -/
theorem mem_split_iff {sep : Char} {cs piece : List Char} :
    piece ∈ split sep cs ↔ IsPiece sep cs piece := by
  refine ⟨fun mem => ?_, IsPiece.mem_split⟩
  by_cases inside : sep ∈ cs
  · obtain ⟨first, rest, rfl, free⟩ := List.eq_append_cons_of_mem inside
    rw [split_append free, List.mem_cons] at mem
    rcases mem with rfl | mem
    · exact ⟨free, [], sep :: rest, rfl, .inl rfl, .inr ⟨rest, rfl⟩⟩
    · obtain ⟨free', front, back, rfl, start, stop⟩ := mem_split_iff.1 mem
      refine ⟨free', first ++ sep :: front, back, by simp, .inr ?_, stop⟩
      rcases start with rfl | ⟨before, rfl⟩
      · exact ⟨first, rfl⟩
      · exact ⟨first ++ sep :: before, by simp⟩
  · rw [split_of_not_mem inside, List.mem_singleton] at mem
    subst mem
    exact ⟨inside, [], [], by simp, .inl rfl, .inl rfl⟩
termination_by cs.length

end Text

namespace BootResource

/-- A name that can stand in a list: it is not empty, and has neither a comma nor
spacing at its ends. -/
structure IsListable (name : String) : Prop where
  nonempty : name ≠ ""
  commaless : ',' ∉ name.toList
  first : ¬ name.toList.head?.any Text.isSpacing
  last : ¬ name.toList.getLast?.any Text.isSpacing

/-- Names that can stand in a list are read back from it, in order. -/
theorem subarchNames_intercalate {names : List String} (h : ∀ n ∈ names, IsListable n) :
    subarchNames (",".intercalate names) = names := by
  cases names with
  | nil => rfl
  | cons n names =>
    have pieces : Text.split ',' (",".intercalate (n :: names)).toList =
        (n :: names).map String.toList := by
      rw [String.toList_intercalate]
      refine Text.split_intercalate (by simp) fun p hp => ?_
      obtain ⟨m, hm, rfl⟩ := List.mem_map.1 hp
      exact (h m hm).commaless
    have kept : ∀ m ∈ n :: names,
        (if (Text.trim Text.isSpacing m.toList).isEmpty then none
          else some (String.ofList (Text.trim Text.isSpacing m.toList))) = some m := by
      intro m hm
      rw [Text.trim_eq_self (h m hm).first (h m hm).last, String.ofList_toList, if_neg]
      simpa using (h m hm).nonempty
    rw [subarchNames, pieces, List.map_map, List.filterMap_map]
    exact (List.filterMap_congr kept).trans List.filterMap_some

end BootResource
end BareMetal
