/-
# Joining looks at names alone

What is joined to a base is written

    stem/name/…/name/

where the stem is the base without the slashes at its end, and the names are what is left of the
segments without the slashes around them, as long as anything is left (`joinSegments_eq`). The stem
does not end in a slash, and neither does a name, so the result ends in exactly one
(`isStem_append_slashed`). Hence it does not count how many slashes the base and the segments were
written with, joining more to the result is joining all at once, and segments that are names can be
read back from what stands behind the stem (`join_normalizes_slashes`).
-/

import BareMetal.Proofs.Url.Path
import BareMetal.Url.Join
import Mathlib

namespace BareMetal
namespace Url

/-- A text that does not end in a slash. -/
def IsStem (cs : List Char) : Prop := ¬ cs.getLast?.any (· = '/')

/-- A text without slashes does not end in one. -/
theorem isStem_of_slashless {cs : List Char} (h : '/' ∉ cs) : IsStem cs := by
  intro last
  obtain ⟨c, hc, slash⟩ := (Option.any_eq_true _ _).1 last
  exact h (of_decide_eq_true slash ▸ List.mem_of_getLast? hc)

/-- Without the slashes at its end a text is a stem. -/
theorem isStem_dropEndSlashes (cs : List Char) : IsStem (dropEndSlashes cs) :=
  Text.getLast?_trimRight _ cs

/-- A stem has no slashes at its end to drop. -/
theorem dropEndSlashes_eq_self {cs : List Char} (stem : IsStem cs) : dropEndSlashes cs = cs :=
  Text.trimRight_eq_self stem

/-- Slashes written behind a text are dropped with those at its end. -/
theorem dropEndSlashes_append {slashes : List Char} (h : ∀ c ∈ slashes, c = '/')
    (cs : List Char) : dropEndSlashes (cs ++ slashes) = dropEndSlashes cs :=
  Text.trimRight_append fun c hc => decide_eq_true (h c hc)

/-- A text that can stand between two slashes: it is not empty, and does not end in a slash. -/
structure IsName (s : List Char) : Prop where
  nonempty : s ≠ []
  isStem : IsStem s

/-- A segment that stands for itself is a name. -/
theorem IsSegment.isName {s : List Char} (h : IsSegment s) : IsName s :=
  ⟨h.nonempty, isStem_of_slashless h.slash_not_mem⟩

/-- Names with a slash in front of each end in the last name. -/
theorem isStem_append_slashed {cs : List Char} {names : List (List Char)} (stem : IsStem cs)
    (h : ∀ s ∈ names, IsName s) : IsStem (cs ++ slashed names) := by
  rcases List.eq_nil_or_concat names with rfl | ⟨init, s, rfl⟩
  · simpa using stem
  · have last : IsName s := h s (by simp)
    rw [List.concat_eq_append, slashed_append, ← List.append_assoc, slashed_cons, slashed_nil,
      List.append_nil, IsStem, List.append_cons, List.getLast?_append_of_ne_nil _ last.nonempty]
    exact last.isStem

/-- The names in segments: what is left of each without the slashes around it, if anything is. -/
def namesIn (segments : List (List Char)) : List (List Char) :=
  (segments.map (Text.trim (· = '/'))).filter (!·.isEmpty)

/-- In no segments there are no names. -/
@[simp] theorem namesIn_nil : namesIn [] = [] := rfl

/-- The names in earlier and later segments stand in this order. -/
theorem namesIn_append (xs ys : List (List Char)) :
    namesIn (xs ++ ys) = namesIn xs ++ namesIn ys := by
  simp [namesIn]

/-- The names are those of the first segment, if it has one, and then those of the others. -/
theorem namesIn_cons (s : List Char) (segments : List (List Char)) :
    namesIn (s :: segments) = namesIn [s] ++ namesIn segments := namesIn_append [s] segments

/-- What is left of a segment without the slashes around it is a name. -/
theorem isName_of_mem_namesIn {segments : List (List Char)} : ∀ s ∈ namesIn segments, IsName s := by
  intro s hs
  obtain ⟨hs, some⟩ := List.mem_filter.1 hs
  obtain ⟨t, -, rfl⟩ := List.mem_map.1 hs
  exact ⟨by simpa using some, Text.getLast?_trimRight _ _⟩

section Segment

variable {s : List Char}

/-- In a segment of slashes alone there is no name. -/
theorem namesIn_of_slashes (h : ∀ c ∈ s, c = '/') : namesIn [s] = [] := by
  have trimmed : Text.trim (· = '/') s = [] :=
    Text.trim_of_forall fun c hc => decide_eq_true (h c hc)
  simp [namesIn, trimmed]

/-- Slashes around a segment do not count. -/
theorem namesIn_surrounded {before after : List Char} (front : ∀ c ∈ before, c = '/')
    (back : ∀ c ∈ after, c = '/') : namesIn [before ++ s ++ after] = namesIn [s] := by
  rw [namesIn, namesIn, List.map_singleton, List.map_singleton,
    Text.trim_surrounded (fun c hc => decide_eq_true (front c hc))
      fun c hc => decide_eq_true (back c hc)]

/-- A segment without slashes is a name as it is. -/
theorem namesIn_of_slashless (some : s ≠ []) (slashless : '/' ∉ s) : namesIn [s] = [s] := by
  have whole : Text.trim (· = '/') s = s :=
    Text.trim_eq_self_of_forall fun c hc slash => slashless (of_decide_eq_true slash ▸ hc)
  simp [namesIn, whole, some]

end Segment

/-- Segments without slashes, none of them empty, are names as they are. -/
theorem namesIn_eq_self {segments : List (List Char)} (h : ∀ s ∈ segments, s ≠ [] ∧ '/' ∉ s) :
    namesIn segments = segments := by
  induction segments with
  | nil => rfl
  | cons s segments ih =>
    rw [List.forall_mem_cons] at h
    rw [namesIn_cons, namesIn_of_slashless h.1.1 h.1.2, ih h.2, List.singleton_append]

/-- Appending a segment writes its name with a slash in front, or nothing. -/
theorem appendSegment_eq (url segment : List Char) :
    appendSegment url segment = url ++ slashed (namesIn [segment]) := by
  rw [appendSegment, namesIn, List.map_singleton]
  cases Text.trim (· = '/') segment with
  | nil => simp
  | cons c cs => simp

/-- The segments are appended one by one, and of each only its name is written. -/
theorem foldl_appendSegment (segments : List (List Char)) (url : List Char) :
    segments.foldl appendSegment url = url ++ slashed (namesIn segments) := by
  induction segments generalizing url with
  | nil => simp
  | cons s segments ih =>
    rw [List.foldl_cons, appendSegment_eq, ih, namesIn_cons s segments, slashed_append,
      List.append_assoc]

/-- Joining writes the stem of the base and the names as a directory. -/
theorem joinSegments_eq (base : List Char) (segments : List (List Char)) :
    joinSegments base segments = dropEndSlashes base ++ directory (namesIn segments) := by
  rw [joinSegments, foldl_appendSegment, directory, List.append_assoc]

/-- What is joined is the stem of another joining. -/
theorem joinSegments_joinSegments (base : List Char) (segments more : List (List Char)) :
    joinSegments (joinSegments base segments) more = joinSegments base (segments ++ more) := by
  have stem : IsStem (dropEndSlashes base ++ slashed (namesIn segments)) :=
    isStem_append_slashed (isStem_dropEndSlashes base) isName_of_mem_namesIn
  have dropped : dropEndSlashes (joinSegments base segments) =
      dropEndSlashes base ++ slashed (namesIn segments) := by
    rw [joinSegments_eq, directory, ← List.append_assoc,
      dropEndSlashes_append (by simp), dropEndSlashes_eq_self stem]
  rw [joinSegments_eq, dropped, joinSegments_eq, namesIn_append, directory, directory,
    slashed_append, List.append_assoc, List.append_assoc]

/-- Slashes and nothing else, or nothing at all. -/
def IsSlashes (s : String) : Prop := ∀ c ∈ s.toList, c = '/'

/-- The second segments are the first ones with more slashes: around some of the segments, and in
segments of their own between them. -/
inductive HasMoreSlashes : List String → List String → Prop
  | nil : HasMoreSlashes [] []
  | around {before after : String} (front : IsSlashes before) (back : IsSlashes after) (s : String)
      {xs ys : List String} : HasMoreSlashes xs ys →
        HasMoreSlashes (s :: xs) ((before ++ s ++ after) :: ys)
  | between {slashes : String} (h : IsSlashes slashes) {xs ys : List String} :
      HasMoreSlashes xs ys → HasMoreSlashes xs (slashes :: ys)

/-- Slashes around segments, and segments of slashes, change none of the names. -/
theorem HasMoreSlashes.namesIn_eq {xs ys : List String} (h : HasMoreSlashes xs ys) :
    namesIn (ys.map String.toList) = namesIn (xs.map String.toList) := by
  induction h with
  | nil => rfl
  | around front back s _ ih =>
    rw [List.map_cons, List.map_cons, namesIn_cons, namesIn_cons s.toList, ih,
      String.toList_append, String.toList_append, namesIn_surrounded front back]
  | between h _ ih => rw [List.map_cons, namesIn_cons, namesIn_of_slashes h, ih, List.nil_append]

section Text

variable (base : String) (segments : List String)

/-- Joining, character by character: the stem of the base and the names as a directory. -/
theorem toList_join : (join base segments).toList =
    dropEndSlashes base.toList ++ directory (namesIn (segments.map String.toList)) := by
  rw [join, String.toList_ofList, joinSegments_eq]

/-- The base is its stem and slashes at the end. -/
theorem exists_stem : ∃ stem slashes : String, base = stem ++ slashes ∧ IsSlashes slashes ∧
    stem.toList = dropEndSlashes base.toList := by
  refine ⟨String.ofList (dropEndSlashes base.toList),
    String.ofList (base.toList.rtakeWhile (· = '/')), String.toList_inj.1 ?_, fun c hc => ?_,
    String.toList_ofList⟩
  · rw [String.toList_append, String.toList_ofList, String.toList_ofList]
    exact (List.rdropWhile_append_rtakeWhile ..).symm
  · rw [String.toList_ofList] at hc
    have slash := List.mem_rtakeWhile_imp hc
    exact of_decide_eq_true slash

/-- Names with a slash in front of each, character by character. -/
theorem toList_slashed (names : List String) :
    (String.join (names.map ("/" ++ ·))).toList = slashed (names.map String.toList) := by
  induction names with
  | nil => rfl
  | cons s names ih => simp [String.join_cons, ih]

/-- The result ends in a slash, and in no more. -/
theorem exists_front :
    ∃ front : String, join base segments = front ++ "/" ∧ IsStem front.toList := by
  have stem : IsStem (dropEndSlashes base.toList ++
      slashed (namesIn (segments.map String.toList))) :=
    isStem_append_slashed (isStem_dropEndSlashes _) isName_of_mem_namesIn
  refine ⟨String.ofList _, String.toList_inj.1 ?_, by rwa [String.toList_ofList]⟩
  rw [toList_join, directory, String.toList_append, String.toList_ofList, List.append_assoc]
  rfl

/-- Segments without slashes are written behind the stem as they are, and are the pieces of what
stands there. -/
theorem join_of_slashless (h : ∀ s ∈ segments, s ≠ "" ∧ '/' ∉ s.toList) {stem : String}
    (hstem : stem.toList = dropEndSlashes base.toList) :
    join base segments = stem ++ String.join (segments.map ("/" ++ ·)) ++ "/" ∧
      Text.split '/' ((join base segments).toList.drop stem.length) =
        [] :: segments.map String.toList ++ [[]] := by
  have slashless : ∀ s ∈ segments.map String.toList, s ≠ [] ∧ '/' ∉ s := by
    intro s hs
    obtain ⟨t, ht, rfl⟩ := List.mem_map.1 hs
    exact ⟨by simpa using (h t ht).1, (h t ht).2⟩
  have written : (join base segments).toList =
      stem.toList ++ directory (segments.map String.toList) := by
    rw [toList_join, namesIn_eq_self slashless, hstem]
  constructor
  · rw [← String.toList_inj, written, directory, String.toList_append, String.toList_append,
      toList_slashed, List.append_assoc]
    rfl
  · rw [written, ← String.length_toList, List.drop_left, directory, Text.split_append_cons,
      ← List.nil_append (slashed _), split_append_slashed List.not_mem_nil
        fun s hs => (slashless s hs).2]
    rfl

/-- **Joining looks at names alone.** The result ends in exactly one slash. More slashes at the end
of the base, around segments and between them change nothing. Joining more to the result is joining
all at once. Segments without slashes are written behind the stem of the base as they are, with one
slash in front of each and one at the end, and are read back by splitting what stands there. -/
theorem join_normalizes_slashes :
    (∃ front : String, join base segments = front ++ "/" ∧ IsStem front.toList) ∧
    (∀ slashes more, IsSlashes slashes → HasMoreSlashes segments more →
      join (base ++ slashes) more = join base segments) ∧
    (∀ more, join (join base segments) more = join base (segments ++ more)) ∧
    ((∀ s ∈ segments, s ≠ "" ∧ '/' ∉ s.toList) →
      ∃ stem slashes : String, base = stem ++ slashes ∧ IsSlashes slashes ∧ IsStem stem.toList ∧
        join base segments = stem ++ String.join (segments.map ("/" ++ ·)) ++ "/" ∧
        Text.split '/' ((join base segments).toList.drop stem.length) =
          [] :: segments.map String.toList ++ [[]]) := by
  refine ⟨exists_front base segments, fun slashes more h h' => ?_, fun more => ?_, fun h => ?_⟩
  · rw [← String.toList_inj, toList_join, toList_join, String.toList_append,
      dropEndSlashes_append h, h'.namesIn_eq]
  · rw [join, join, join, String.toList_ofList, joinSegments_joinSegments, List.map_append]
  · obtain ⟨stem, slashes, whole, hslashes, hstem⟩ := exists_stem base
    exact ⟨stem, slashes, whole, hslashes, hstem ▸ isStem_dropEndSlashes _,
      join_of_slashless base segments h hstem⟩

end Text

/-- A base with a slash at its end, and the segments of an interface with slashes around them and
between them. -/
theorem join_normalizes_slashes_maas :
    HasMoreSlashes ["api", "2.0"] ["/api", "//", "2.0/"] ∧
      join ("http://maas/MAAS" ++ "/") ["/api", "//", "2.0/"] =
        join "http://maas/MAAS" ["api", "2.0"] ∧
      ∃ stem slashes : String, "http://maas/MAAS" = stem ++ slashes ∧ IsSlashes slashes ∧
        IsStem stem.toList ∧
        join "http://maas/MAAS" ["api", "2.0"] =
          stem ++ String.join (["api", "2.0"].map ("/" ++ ·)) ++ "/" ∧
        Text.split '/' ((join "http://maas/MAAS" ["api", "2.0"]).toList.drop stem.length) =
          [] :: ["api", "2.0"].map String.toList ++ [[]] := by
  have slash : IsSlashes "/" := by simp [IsSlashes]
  have slashes : IsSlashes "//" := by simp [IsSlashes]
  have nothing : IsSlashes "" := by simp [IsSlashes]
  have more : HasMoreSlashes ["api", "2.0"] ["/api", "//", "2.0/"] :=
    .around slash nothing "api" (.between slashes (.around nothing slash "2.0" .nil))
  have laws := join_normalizes_slashes "http://maas/MAAS" ["api", "2.0"]
  exact ⟨more, laws.2.1 "/" _ slash more, laws.2.2.2 (by simp)⟩

end Url
end BareMetal
