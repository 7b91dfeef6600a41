/-
# Paths taken from a directory

A path is taken from a directory by going through its segments one by one. A name leads
one down, `..` one up, `.` and an empty segment nowhere.

* Names alone are written behind the directory as they are (`resolvePath_of_names`).
* A path whose first segment is a name never leaves the directory of that name, as long as no
  `..` leads above it (`exists_resolvePath_of_staysBelow`).

The segments are resolved on a stack, the innermost one on top. So the directory that is not
left is the part of the stack that stays where it is (`exists_foldl_kept`).
-/

import BareMetal.Proofs.Text.Names
import BareMetal.Url.Reference
import Mathlib

namespace BareMetal

namespace Url

/-- A character that parts a reference, or that is dropped from it. -/
def isMark (c : Char) : Bool :=
  c == '/' || c == '?' || c == '#' || c == '\t' || c == '\r' || c == '\n'

/-- A segment that stands for itself wherever it is written. -/
structure IsSegment (s : List Char) : Prop where
  nonempty : s ≠ []
  notDot : s ≠ ['.']
  notDots : s ≠ ['.', '.']
  unmarked : ∀ c ∈ s, ¬ isMark c

/-- A segment has no slash in it. -/
theorem IsSegment.slash_not_mem {s : List Char} (h : IsSegment s) : '/' ∉ s :=
  fun hs => h.unmarked _ hs rfl

/-- A segment, as it is checked for a given text. -/
theorem isSegment_of_all {s : List Char} (nonempty : s ≠ []) (notDot : s ≠ ['.'])
    (notDots : s ≠ ['.', '.']) (unmarked : s.all (!isMark ·)) : IsSegment s :=
  ⟨nonempty, notDot, notDots, fun c hc => by simpa using List.all_eq_true.1 unmarked c hc⟩

/-- Segments with a slash in front of each. -/
def slashed (segments : List (List Char)) : List Char := segments.flatMap ('/' :: ·)

/-- Of no segments nothing is written. -/
@[simp] theorem slashed_nil : slashed [] = [] := rfl

/-- The first segment is written with a slash in front, and the others behind it. -/
@[simp] theorem slashed_cons (s : List Char) (segments : List (List Char)) :
    slashed (s :: segments) = '/' :: s ++ slashed segments := rfl

/-- Earlier and later segments are written in this order. -/
@[simp] theorem slashed_append (xs ys : List (List Char)) :
    slashed (xs ++ ys) = slashed xs ++ slashed ys := List.flatMap_append

/-- Joining with slashes puts one in front of each segment but the first. -/
theorem join_cons (s : List Char) (segments : List (List Char)) :
    Text.join ['/'] (s :: segments) = s ++ slashed segments := by
  induction segments generalizing s with
  | nil => simp [Text.join]
  | cons t segments ih => simp [Text.join, ih]

/-- A text is written again from its pieces, with one slash more in front. -/
theorem slashed_split (cs : List Char) : slashed (Text.split '/' cs) = '/' :: cs := by
  induction cs with
  | nil => rfl
  | cons c cs ih =>
    by_cases hc : c = '/'
    · simp [Text.split, hc, ih]
    · obtain ⟨piece, pieces, h⟩ := List.exists_cons_of_ne_nil (Text.split_ne_nil '/' cs)
      simpa [Text.split, hc, h] using ih

/-- Segments without slashes in them are the pieces between the slashes. -/
theorem split_append_slashed {s : List Char} {segments : List (List Char)} (hs : '/' ∉ s)
    (h : ∀ t ∈ segments, '/' ∉ t) : Text.split '/' (s ++ slashed segments) = s :: segments := by
  induction segments generalizing s with
  | nil => rw [slashed_nil, List.append_nil, Text.split_of_not_mem hs]
  | cons t segments ih =>
    rw [List.forall_mem_cons] at h
    rw [slashed_cons, List.cons_append, Text.split_append hs, ih h.1 h.2]

/-- The directory that a path is taken from. -/
def directory (segments : List (List Char)) : List Char := slashed segments ++ ['/']

/-- The first segment of a directory stands behind the first slash. -/
theorem directory_cons (s : List Char) (segments : List (List Char)) :
    directory (s :: segments) = '/' :: (s ++ directory segments) := by
  simp [directory]

/-- The directory of earlier and later segments is that of the later ones behind the
earlier. -/
theorem directory_append (xs ys : List (List Char)) :
    directory (xs ++ ys) = slashed xs ++ directory ys := by
  simp [directory]

/-- A directory begins and ends with a slash, so its pieces are its segments between two
empty ones. -/
theorem split_directory {segments : List (List Char)} (h : ∀ s ∈ segments, IsSegment s) :
    Text.split '/' (directory segments) = [] :: segments ++ [[]] := by
  have slashless : Text.split '/' ([] ++ slashed segments) = [] :: segments :=
    split_append_slashed List.not_mem_nil fun t ht => (h t ht).slash_not_mem
  rw [directory, Text.split_append_cons, ← List.nil_append (slashed segments), slashless]
  rfl

/-- The steps without those that are empty, except for the last one. -/
def kept (steps : List (List Char)) : List (List Char) :=
  steps.dropLast.filter (!·.isEmpty) ++ steps.getLast?.toList

/-- The first piece of a path stays, empty or not, and of the others those that are kept. -/
theorem dropEmptyInside_cons {s : List Char} {rest : List (List Char)} (h : rest ≠ []) :
    dropEmptyInside (s :: rest) = s :: kept rest := by
  obtain ⟨t, rest, rfl⟩ := List.exists_cons_of_ne_nil h
  rfl

/-- In front of other steps an empty step is not kept. -/
theorem kept_cons {s : List Char} {rest : List (List Char)} (h : rest ≠ []) :
    kept (s :: rest) = if s = [] then kept rest else s :: kept rest := by
  obtain ⟨t, rest, rfl⟩ := List.exists_cons_of_ne_nil h
  cases s <;> simp [kept]

/-- Segments that are not empty are kept in front of any steps. -/
theorem kept_append {segments steps : List (List Char)} (h : ∀ s ∈ segments, s ≠ [])
    (some : steps ≠ []) : kept (segments ++ steps) = segments ++ kept steps := by
  induction segments with
  | nil => rfl
  | cons s segments ih =>
    rw [List.forall_mem_cons] at h
    rw [List.cons_append, kept_cons (by simp [some]), if_neg h.1, ih h.2]
    rfl

/-- The segments of a path whose first segment is a name: those of the directory, and those of
the path itself. -/
theorem segmentsFrom_directory {segments : List (List Char)} (h : ∀ s ∈ segments, IsSegment s)
    {first : List Char} (hfirst : IsSegment first) (tail : List Char) :
    segmentsFrom (directory segments) (first ++ '/' :: tail) =
      [] :: segments ++ [first] ++ kept (Text.split '/' tail) := by
  have tails : Text.split '/' tail ≠ [] := Text.split_ne_nil _ _
  have relative : segmentsFrom (directory segments) (first ++ '/' :: tail) =
      dropEmptyInside (([] :: segments ++ [[]]) ++ Text.split '/' (first ++ '/' :: tail)) := by
    obtain ⟨c, cs, rfl⟩ := List.exists_cons_of_ne_nil hfirst.nonempty
    have relative : c ≠ '/' := fun hc => hfirst.slash_not_mem (by simp [hc])
    rw [segmentsFrom, split_directory h, if_pos List.getLast?_concat]
    intro cs' heq
    exact relative (List.cons.inj heq).1
  rw [relative, Text.split_append hfirst.slash_not_mem, List.cons_append, List.cons_append,
    dropEmptyInside_cons (by simp), List.append_assoc, List.cons_append, List.nil_append,
    kept_append (fun s hs => (h s hs).nonempty) (by simp), kept_cons (by simp), if_pos rfl,
    kept_cons tails, if_neg hfirst.nonempty]
  simp

/-- Going through the steps never leads above the place that is `depth` levels above the one
where it begins. -/
def staysBelow : Nat → List (List Char) → Bool
  | _, [] => true
  | depth, step :: steps =>
    if step = ['.', '.'] then depth ≠ 0 && staysBelow (depth - 1) steps
    else if step = ['.'] ∨ step = [] then staysBelow depth steps
    else staysBelow (depth + 1) steps

variable {step : List Char} {steps above : List (List Char)}

/-- One step, of which an empty one counts only at the end. -/
theorem exists_resolveSegment (below : List (List Char)) (counts : step ≠ [] ∨ steps = [])
    (h : staysBelow above.length (step :: steps)) :
    ∃ next, resolveSegment (above ++ below) step = next ++ below ∧ staysBelow next.length steps ∧
      (next = [] → step = ['.'] ∨ step = ['.', '.']) := by
  rw [staysBelow] at h
  by_cases dots : step = ['.', '.']
  · rw [if_pos dots] at h
    cases above with
    | nil => cases h
    | cons a above =>
      exact ⟨above, by simp [resolveSegment, dots], by simpa using h, fun _ => .inr dots⟩
  · rw [if_neg dots] at h
    by_cases dot : step = ['.']
    · rw [if_pos (.inl dot)] at h
      exact ⟨above, by simp [resolveSegment, dot], h, fun _ => .inl dot⟩
    · refine ⟨step :: above, by simp [resolveSegment, dots, dot], ?_, nofun⟩
      rcases counts with named | rfl
      · rwa [if_neg (not_or.2 ⟨dot, named⟩)] at h
      · rfl

/-- Steps that stay below leave the lower part of the stack as it is. Above it there is a
segment, unless the last step is `.` or `..`. -/
theorem exists_foldl_kept (below : List (List Char)) (some : steps ≠ [])
    (h : staysBelow above.length steps) :
    ∃ inside, (kept steps).foldl resolveSegment (above ++ below) = inside ++ below ∧
      (inside = [] → steps.getLast some = ['.'] ∨ steps.getLast some = ['.', '.']) := by
  induction steps generalizing above with
  | nil => exact absurd rfl some
  | cons step steps ih =>
    by_cases last : steps = []
    · subst last
      obtain ⟨next, resolved, -, ends⟩ := exists_resolveSegment below (.inr rfl) h
      exact ⟨next, resolved, ends⟩
    · rw [List.getLast_cons last, kept_cons last]
      by_cases empty : step = []
      · rw [if_pos empty]
        exact ih last (by simpa [staysBelow, empty] using h)
      · obtain ⟨next, resolved, stays, -⟩ := exists_resolveSegment below (.inl empty) h
        rw [if_neg empty, List.foldl_cons, resolved]
        exact ih last stays

/-- Names are put on the stack one by one, the last one on top. -/
theorem foldl_resolveSegment_of_names {names : List (List Char)}
    (h : ∀ s ∈ names, s ≠ ['.'] ∧ s ≠ ['.', '.']) (above : List (List Char)) :
    names.foldl resolveSegment above = names.reverse ++ above := by
  induction names generalizing above with
  | nil => rfl
  | cons s names ih =>
    rw [List.forall_mem_cons] at h
    rw [List.foldl_cons, resolveSegment, if_neg h.1.2, if_neg h.1.1, ih h.2]
    simp

/-- The last step is kept, empty or not. -/
theorem getLast?_kept (some : steps ≠ []) : (kept steps).getLast? = steps.getLast? := by
  rw [kept, List.getLast?_eq_some_getLast some, Option.toList_some, List.getLast?_concat]

/-- A path that was resolved to segments below the root is written with a slash in front of
each, and with one more at the end if it ended in `.` or `..`. -/
theorem resolvePath_eq {base path : List Char} {names : List (List Char)}
    (stack : ((segmentsFrom base path).foldl resolveSegment []).reverse = [] :: names)
    (some : names ≠ []) :
    resolvePath base path = slashed (names ++
      if (segmentsFrom base path).getLast? = Option.some ['.'] ∨
          (segmentsFrom base path).getLast? = Option.some ['.', '.'] then [[]] else []) := by
  obtain ⟨s, names, rfl⟩ := List.exists_cons_of_ne_nil some
  have written (xs : List (List Char)) :
      Text.join ['/'] ([] :: (s :: names ++ xs)) = slashed (s :: names ++ xs) := by
    rw [join_cons, List.nil_append]
  rw [resolvePath, stack]
  split_ifs with dotted
  · rw [List.cons_append, written]
    rfl
  · rw [List.append_nil, ← List.append_nil (s :: names), written]
    rfl

section Directory

variable {segments : List (List Char)} (h : ∀ s ∈ segments, IsSegment s) {first : List Char}
  (hfirst : IsSegment first) {tail : List Char}
include h hfirst

/-- The path that is found from a directory, by what is left on the stack. -/
theorem resolvePath_directory {inside : List (List Char)}
    (resolved : (kept (Text.split '/' tail)).foldl resolveSegment
      (first :: (segments.reverse ++ [[]])) = inside ++ first :: (segments.reverse ++ [[]])) :
    resolvePath (directory segments) (first ++ '/' :: tail) =
      slashed (segments ++ first :: (inside.reverse ++
        if (Text.split '/' tail).getLast? = some ['.'] ∨
            (Text.split '/' tail).getLast? = some ['.', '.'] then [[]] else [])) := by
  have some : Text.split '/' tail ≠ [] := Text.split_ne_nil _ _
  have names : ∀ s ∈ [] :: segments ++ [first], s ≠ ['.'] ∧ s ≠ ['.', '.'] := by
    simp only [List.cons_append, List.forall_mem_cons, List.forall_mem_append]
    exact ⟨by decide, fun s hs => ⟨(h s hs).notDot, (h s hs).notDots⟩,
      ⟨hfirst.notDot, hfirst.notDots⟩, nofun⟩
  have kept_ne : kept (Text.split '/' tail) ≠ [] := by
    rw [Ne, ← List.getLast?_eq_none_iff, getLast?_kept some, List.getLast?_eq_none_iff]
    exact some
  have stack : (segmentsFrom (directory segments) (first ++ '/' :: tail)).foldl resolveSegment [] =
      inside ++ first :: (segments.reverse ++ [[]]) := by
    rw [segmentsFrom_directory h hfirst, List.foldl_append, foldl_resolveSegment_of_names names,
      ← resolved]
    simp
  have last : (segmentsFrom (directory segments) (first ++ '/' :: tail)).getLast? =
      (Text.split '/' tail).getLast? := by
    rw [segmentsFrom_directory h hfirst, List.getLast?_append_of_ne_nil _ kept_ne,
      getLast?_kept some]
  have reversed : (inside ++ first :: (segments.reverse ++ [[]])).reverse =
      [] :: (segments ++ first :: inside.reverse) := by simp
  rw [resolvePath_eq (stack ▸ reversed) (by simp), last, List.append_assoc, List.cons_append]

/-- As long as no `..` leads above the first name, the path stays in its directory. -/
theorem exists_resolvePath_of_staysBelow (stays : staysBelow 0 (Text.split '/' tail)) :
    ∃ more, resolvePath (directory segments) (first ++ '/' :: tail) =
      directory (segments ++ [first]) ++ more := by
  have some : Text.split '/' tail ≠ [] := Text.split_ne_nil _ _
  obtain ⟨inside, resolved, ends⟩ :=
    exists_foldl_kept (first :: (segments.reverse ++ [[]])) some
      (show staysBelow [].length _ from stays)
  -- something stands behind the first name: a segment, or the empty one after `.` or `..`
  obtain ⟨segment, more, rest⟩ : ∃ segment more, (inside.reverse ++
      if (Text.split '/' tail).getLast? = .some ['.'] ∨
          (Text.split '/' tail).getLast? = .some ['.', '.'] then [[]] else []) =
        segment :: more := by
    refine List.exists_cons_of_ne_nil fun empty => ?_
    obtain ⟨none, undotted⟩ := List.append_eq_nil_iff.1 empty
    simp only [List.getLast?_eq_some_getLast some, Option.some.injEq] at undotted
    rw [if_pos (ends (List.reverse_eq_nil_iff.1 none))] at undotted
    cases undotted
  refine ⟨segment ++ slashed more, ?_⟩
  rw [resolvePath_directory h hfirst resolved, rest, directory]
  simp

/-- Names are written behind the directory as they are. -/
theorem resolvePath_of_names {names : List (List Char)} (hnames : ∀ s ∈ names, IsSegment s)
    (written : Text.split '/' tail = names ++ [[]]) :
    resolvePath (directory segments) (first ++ '/' :: tail) =
      directory segments ++ first ++ '/' :: tail := by
  have all_kept : kept (names ++ [[]]) = names ++ [[]] :=
    kept_append (fun s hs => (hnames s hs).nonempty) (by simp)
  have resolved : (kept (Text.split '/' tail)).foldl resolveSegment
      (first :: (segments.reverse ++ [[]])) =
        ([] :: names.reverse) ++ first :: (segments.reverse ++ [[]]) := by
    rw [written, all_kept, foldl_resolveSegment_of_names]
    · simp
    · simp only [List.forall_mem_append, List.forall_mem_cons]
      exact ⟨fun s hs => ⟨(hnames s hs).notDot, (hnames s hs).notDots⟩, by decide, nofun⟩
  have undotted : ¬ ((Text.split '/' tail).getLast? = some ['.'] ∨
      (Text.split '/' tail).getLast? = some ['.', '.']) := by
    simp [written]
  have tails : slashed (names ++ [[]]) = '/' :: tail := by rw [← written, slashed_split]
  rw [resolvePath_directory h hfirst resolved, if_neg undotted, List.append_nil, List.reverse_cons,
    List.reverse_reverse, slashed_append, slashed_cons, tails, directory]
  simp

end Directory

end Url
end BareMetal
