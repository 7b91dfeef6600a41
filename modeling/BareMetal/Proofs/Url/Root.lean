/-
# References from the root of a site

A reference that begins with a slash is taken from the root of the site of its base, wherever on
that site the base is. It is written

    /segment/…/segment/end

where the end is a segment without parameters, or nothing (`IsEnd`). Such a reference stands for
itself: what is found is the site with the reference behind it (`Site.resolve_of_root`). Parameters
at the end would be split off it, and a `.` in front of them resolved.

A segment is *plain* if it is made of letters, digits, `-`, `_`, `~` and `.` and is neither `.` nor
`..`. It has no parameters, and cannot be taken for anything else in front of a reference
(`IsPlain.isEnd`, `IsPlain.isFirst`).
-/

import BareMetal.Proofs.Url.Site
import Mathlib

namespace BareMetal
namespace Url

/-- What may stand behind the last slash of a reference: a segment without parameters, or
nothing. -/
structure IsEnd (s : List Char) : Prop where
  notDot : s ≠ ['.']
  notDots : s ≠ ['.', '.']
  unmarked : ∀ c ∈ s, ¬ isMark c
  paramless : ';' ∉ s

/-- Nothing may stand behind the last slash. -/
theorem IsEnd.nil : IsEnd [] := ⟨nofun, nofun, nofun, nofun⟩

/-- No character that parts a reference is in the end of one. -/
theorem IsEnd.not_mem {s : List Char} (h : IsEnd s) {mark : Char} (hmark : isMark mark) :
    mark ∉ s := fun hmem => h.unmarked mark hmem hmark

/-- A letter, a digit, or one of `-`, `_`, `~`, `.`. -/
def isPlainChar (c : Char) : Bool :=
  c.isAlphanum || c == '-' || c == '_' || c == '~' || c == '.'

/-- A plain character does not part a reference. -/
theorem not_isMark_of_isPlainChar {c : Char} (h : isPlainChar c) : ¬ isMark c := by
  intro mark
  simp only [isMark, Bool.or_eq_true, beq_iff_eq] at mark
  rcases mark with ((((rfl | rfl) | rfl) | rfl) | rfl) | rfl <;> cases h

/-- A plain character is neither a control character nor a space. -/
theorem visible_of_isPlainChar {c : Char} (h : isPlainChar c) : 0x20 < c.toNat := by
  simp only [isPlainChar, Char.isAlphanum, Char.isAlpha, Char.isUpper, Char.isLower, Char.isDigit,
    Bool.or_eq_true, Bool.and_eq_true, decide_eq_true_eq, beq_iff_eq, UInt32.le_iff_toNat_le] at h
  rcases h with (((((⟨low, -⟩ | ⟨low, -⟩) | ⟨low, -⟩) | rfl) | rfl) | rfl) | rfl
  · exact lt_of_lt_of_le (by decide) low
  · exact lt_of_lt_of_le (by decide) low
  · exact lt_of_lt_of_le (by decide) low
  all_goals decide

/-- A segment of plain characters that is neither `.` nor `..`. -/
structure IsPlain (s : List Char) : Prop where
  nonempty : s ≠ []
  notDot : s ≠ ['.']
  notDots : s ≠ ['.', '.']
  plain : ∀ c ∈ s, isPlainChar c

namespace IsPlain

/-- A plain segment, as it is checked for a given text. -/
theorem iff_all {s : List Char} :
    (s ≠ [] ∧ s ≠ ['.'] ∧ s ≠ ['.', '.'] ∧ s.all isPlainChar) ↔ IsPlain s := by
  rw [List.all_eq_true]
  exact ⟨fun ⟨filled, notDot, notDots, plain⟩ => ⟨filled, notDot, notDots, plain⟩,
    fun h => ⟨h.nonempty, h.notDot, h.notDots, h.plain⟩⟩

instance (s : List Char) : Decidable (IsPlain s) := decidable_of_iff _ iff_all

variable {s : List Char} (h : IsPlain s)
include h

/-- A plain segment stands for itself. -/
theorem isSegment : IsSegment s :=
  ⟨h.nonempty, h.notDot, h.notDots, fun c hc => not_isMark_of_isPlainChar (h.plain c hc)⟩

/-- What is no plain character is not in a plain segment. -/
theorem not_mem {c : Char} (other : ¬ isPlainChar c) : c ∉ s := fun hc => other (h.plain c hc)

/-- A plain segment can begin a reference. -/
theorem isFirst : IsFirst s :=
  ⟨h.isSegment, h.not_mem (by decide), fun c hc =>
    visible_of_isPlainChar (h.plain c (List.mem_of_head? hc))⟩

/-- A plain segment can end a reference. -/
theorem isEnd : IsEnd s :=
  ⟨h.notDot, h.notDots, h.isSegment.unmarked, h.not_mem (by decide)⟩

end IsPlain

/-- A reference that begins with one slash has neither a scheme nor a host. -/
theorem split_of_root {path : List Char} (whole : unbroken ('/' :: path) = '/' :: path)
    (hostless : path.head? ≠ some '/') (scheme : List Char) :
    split scheme ('/' :: path) = .ok (splitPath scheme ('/' :: path)) := by
  have parts : (splitScheme? (clean ('/' :: path))).getD (scheme, clean ('/' :: path)) =
      (scheme, '/' :: path) := by
    have cleaned : clean ('/' :: path) = '/' :: path :=
      (clean_cons (by decide) path).trans whole
    have none : splitScheme? ('/' :: path) = none := by
      rw [splitScheme?, List.takeWhile_cons_of_pos (by decide)]
      split
      · next heq _ =>
        obtain rfl := (List.cons.inj heq).1
        rfl
      · rfl
    rw [cleaned, none]
    rfl
  have host : splitHost ('/' :: path) = ([], '/' :: path) := by
    unfold splitHost
    split
    · next heq => exact absurd (congrArg List.head? (List.cons.inj heq).2) hostless
    · rfl
  rw [split_eq parts (by rw [host]; rfl), host]
  rfl

section Root

variable {names : List (List Char)} (h : ∀ s ∈ names, IsSegment s) {last : List Char}
  (hlast : IsEnd last)
include h hlast

/-- A reference from the root has slashes in it and nothing else that parts references. -/
theorem not_mem_rooted {mark : Char} (hmark : isMark mark) (slash : mark ≠ '/') :
    mark ∉ directory names ++ last :=
  fun hmem => (List.mem_append.1 hmem).elim (not_mem_directory h hmark slash) (hlast.not_mem hmark)

/-- It begins with one slash and no other. -/
theorem exists_rooted_eq : ∃ path, directory names ++ last = '/' :: path ∧
    path.head? ≠ some '/' := by
  cases names with
  | nil => exact ⟨last, rfl, fun slash => hlast.not_mem rfl (List.mem_of_head? slash)⟩
  | cons s names =>
    have first := h s (List.mem_cons_self ..)
    refine ⟨s ++ (directory names ++ last), by simp [directory_cons], fun slash => ?_⟩
    rw [List.head?_append_of_ne_nil _ first.nonempty] at slash
    exact first.slash_not_mem (List.mem_of_head? slash)

/-- It has nothing behind its path. -/
theorem splitPath_rooted (scheme : List Char) :
    splitPath scheme (directory names ++ last) = { scheme, path := directory names ++ last } := by
  have free {m : Char} (hm : isMark m) (slash : m ≠ '/') : m ∉ slashed names := fun hmem =>
    not_mem_directory h hm slash (List.mem_append_left _ hmem)
  have cut {m : Char} (hm : m ∉ last) : cutAt m last = (last, []) := by
    simpa [cutAt] using cutAt_append hm []
  have hash : '#' ∉ last := hlast.not_mem rfl
  have mark : '?' ∉ last := hlast.not_mem rfl
  have whole : splitParams last = (last, []) := by
    have slashless : ∀ c ∈ last.reverse, decide (c ≠ '/') := fun c hc =>
      decide_eq_true fun slash => hlast.not_mem rfl (slash ▸ List.mem_reverse.1 hc)
    have segment : last.reverse.takeWhile (fun c => decide (c ≠ '/')) = last.reverse :=
      List.takeWhile_eq_self_iff.2 slashless
    have before : last.reverse.dropWhile (fun c => decide (c ≠ '/')) = [] :=
      List.dropWhile_eq_nil_iff.2 slashless
    rw [splitParams, segment, before, List.reverse_reverse, cut hlast.paramless]
    rfl
  have alone : splitPath scheme last = { scheme, path := last } := by
    simp only [splitPath, cut hash, cut mark, whole, ite_self]
  rw [directory, List.append_assoc, List.singleton_append,
    splitPath_append_slash scheme (free rfl (by decide)) (free rfl (by decide)), alone]

/-- It is found from every directory as it is. -/
theorem resolvePath_rooted (base : List Char) :
    resolvePath base (directory names ++ last) = directory names ++ last := by
  have rooted : directory names ++ last = slashed (names ++ [last]) := by simp [directory]
  have slashless : ∀ s ∈ names ++ [last], '/' ∉ s := by
    simp only [List.forall_mem_append, List.forall_mem_singleton]
    exact ⟨fun s hs => (h s hs).slash_not_mem, hlast.not_mem rfl⟩
  have undotted : ∀ s ∈ [] :: (names ++ [last]), s ≠ ['.'] ∧ s ≠ ['.', '.'] := by
    simp only [List.forall_mem_cons, List.forall_mem_append]
    exact ⟨by decide, fun s hs => ⟨(h s hs).notDot, (h s hs).notDots⟩,
      ⟨hlast.notDot, hlast.notDots⟩, List.forall_mem_nil _⟩
  have segments : segmentsFrom base (slashed (names ++ [last])) = [] :: (names ++ [last]) := by
    have pieces : Text.split '/' (slashed (names ++ [last])) = [] :: (names ++ [last]) :=
      split_append_slashed List.not_mem_nil slashless
    rw [← pieces]
    cases names <;> rfl
  have stack : ((segmentsFrom base (slashed (names ++ [last]))).foldl resolveSegment []).reverse =
      [] :: (names ++ [last]) := by
    rw [segments, foldl_resolveSegment_of_names undotted]
    simp
  have ending : ¬ ((segmentsFrom base (slashed (names ++ [last]))).getLast? = some ['.'] ∨
      (segmentsFrom base (slashed (names ++ [last]))).getLast? = some ['.', '.']) := by
    rw [segments, not_or]
    exact ⟨fun dot => (undotted _ (List.mem_of_getLast? dot)).1 rfl,
      fun dots => (undotted _ (List.mem_of_getLast? dots)).2 rfl⟩
  rw [rooted, resolvePath_eq stack (by simp), if_neg ending, List.append_nil]

/-- A reference from the root stands for itself on the site of its base. -/
theorem Site.resolve_of_root (a : Site) {segments : List (List Char)}
    (hbase : ∀ s ∈ segments, IsSegment s) :
    resolve (a.text ++ directory segments) (directory names ++ last) =
      .ok (a.text ++ (directory names ++ last)) := by
  have free {m : Char} (hm : isMark m) (slash : m ≠ '/') := not_mem_rooted h hlast hm slash
  have whole : unbroken (directory names ++ last) = directory names ++ last :=
    unbroken_eq_self ⟨free rfl (by decide), free rfl (by decide), free rfl (by decide)⟩
  have parts := splitPath_rooted h hlast a.scheme
  have found := resolvePath_rooted h hlast (directory segments)
  obtain ⟨path, rooted, hostless⟩ := exists_rooted_eq h hlast
  rw [rooted] at whole parts found ⊢
  have hu := split_of_root whole hostless a.scheme
  rw [parts] at hu
  rw [a.resolve_eq hbase (by simp) hu rfl rfl (by simp) found]
  simp [Reference.suffix]

end Root
end Url
end BareMetal
