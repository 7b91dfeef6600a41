/-
# References from a directory of a site

A site is a scheme of the web and a host. A directory of it is written

    scheme://host/segment/…/segment/

and a reference that begins with a segment and a slash is resolved against it without a look
at its scheme or host: the path is taken from the directory, and what follows the path is
written behind it (`Site.resolve_relative`). Such a reference stays in the directory of its
first segment, unless a `..` leads out of it (`Site.exists_resolve_of_staysBelow`), and stands for
itself if it is made of segments alone (`Site.resolve_of_names`).
-/

import BareMetal.Proofs.Url.Path
import Mathlib

namespace BareMetal
namespace Url

/-- A host of the web. -/
structure Site where
  scheme : List Char
  host : List Char
  isWeb : scheme = "http".toList ∨ scheme = "https".toList
  nonempty : host ≠ []
  unmarked : ∀ c ∈ host, ¬ isMark c
  sound : hostFault? host = none

/-- The text of a site. -/
def Site.text (a : Site) : List Char := a.scheme ++ ':' :: '/' :: '/' :: a.host

section Parts

variable {mark : Char} {cs : List Char}

/-- A text is cut at the first mark, behind whatever has no mark in it. -/
theorem cutAt_append (h : mark ∉ cs) (rest : List Char) :
    cutAt mark (cs ++ rest) = (cs ++ (cutAt mark rest).1, (cutAt mark rest).2) := by
  have other : ∀ c ∈ cs, decide (c ≠ mark) := fun c hc => decide_eq_true fun heq => h (heq ▸ hc)
  rw [cutAt, List.takeWhile_append_of_pos other, List.dropWhile_append_of_pos other]
  rfl

/-- Taking characters of a class ends at the first one that is not of it, wherever in front
that is. -/
theorem takeWhile_append_cons {p : Char → Bool} {x : Char} (h : ¬ p x) (cs rest : List Char) :
    (cs ++ x :: rest).takeWhile p = cs.takeWhile p := by
  induction cs with
  | nil => exact List.takeWhile_cons_of_neg h
  | cons c cs ih => cases hc : p c <;> simp [hc, ih]

/-- Dropping characters of a class keeps the first one that is not of it, and all behind it. -/
theorem dropWhile_append_cons {p : Char → Bool} {x : Char} (h : ¬ p x) (cs rest : List Char) :
    (cs ++ x :: rest).dropWhile p = cs.dropWhile p ++ x :: rest := by
  induction cs with
  | nil => exact List.dropWhile_cons_of_neg h
  | cons c cs ih => cases hc : p c <;> simp [hc, ih]

/-- Parameters are looked for behind the last slash only. -/
theorem splitParams_append_slash (cs rest : List Char) :
    splitParams (cs ++ '/' :: rest) =
      (cs ++ '/' :: (splitParams rest).1, (splitParams rest).2) := by
  have reversed : (cs ++ '/' :: rest).reverse = rest.reverse ++ '/' :: cs.reverse := by simp
  have slash : ¬ decide ('/' ≠ '/') := by decide
  rw [splitParams, splitParams, reversed,
    takeWhile_append_cons (p := fun c => decide (c ≠ '/')) slash,
    dropWhile_append_cons (p := fun c => decide (c ≠ '/')) slash]
  simp

/-- A text without tabs and line ends. -/
def unbroken (cs : List Char) : List Char := cs.filter fun c => c ≠ '\t' && c ≠ '\r' && c ≠ '\n'

/-- A text without tabs and line ends stays as it is. -/
theorem unbroken_eq_self (h : '\t' ∉ cs ∧ '\r' ∉ cs ∧ '\n' ∉ cs) : unbroken cs = cs := by
  refine List.filter_eq_self.2 fun c hc => ?_
  have tab : c ≠ '\t' := fun heq => h.1 (heq ▸ hc)
  have cr : c ≠ '\r' := fun heq => h.2.1 (heq ▸ hc)
  have lf : c ≠ '\n' := fun heq => h.2.2 (heq ▸ hc)
  simp [tab, cr, lf]

/-- A text that begins with a visible character is cleaned of tabs and line ends only. -/
theorem clean_cons {c : Char} (h : 0x20 < c.toNat) (cs : List Char) :
    clean (c :: cs) = unbroken (c :: cs) := by
  rw [clean, List.dropWhile_cons_of_neg (by simpa using h)]
  rfl

/-- The host in front of a path, if there is one, and the rest. -/
def splitHost : List Char → List Char × List Char
  | '/' :: '/' :: rest =>
    let isEnd (c : Char) : Bool := c == '/' || c == '?' || c == '#'
    (rest.takeWhile (!isEnd ·), rest.dropWhile (!isEnd ·))
  | url => ([], url)

/-- The path of a reference without a host, and the parts behind it. -/
def splitPath (scheme url : List Char) : Reference :=
  let (url, fragment) := cutAt '#' url
  let (path, query) := cutAt '?' url
  let (path, params) := if hasParams scheme then splitParams path else (path, [])
  { scheme, path, params, query, fragment }

/-- A text is taken apart from the front: the scheme, the host, and the path with what is
behind it. -/
theorem split_eq {given cs scheme url : List Char}
    (h : (splitScheme? (clean cs)).getD (given, clean cs) = (scheme, url))
    (sound : hostFault? (splitHost url).1 = none) :
    split given cs =
      .ok { splitPath scheme (splitHost url).2 with host := (splitHost url).1 } := by
  rw [split, h]
  by_cases authority : ∃ rest, url = '/' :: '/' :: rest
  · obtain ⟨rest, rfl⟩ := authority
    simp only [splitHost] at sound ⊢
    simp only [sound, splitPath]
  · have relative : ∀ rest, url = '/' :: '/' :: rest → False := fun rest hu => authority ⟨rest, hu⟩
    -- with `relative` in the context, the case of a host drops out on both sides
    simp only [splitHost] at sound ⊢
    simp only [sound, splitPath]

/-- What stands before a slash is of no account for the parts behind the path. -/
theorem splitPath_append_slash (scheme : List Char) {cs : List Char} (hash : '#' ∉ cs)
    (mark : '?' ∉ cs) (rest : List Char) :
    splitPath scheme (cs ++ '/' :: rest) =
      { splitPath scheme rest with path := cs ++ '/' :: (splitPath scheme rest).path } := by
  have cut {m : Char} (hm : m ≠ '/') (h : m ∉ cs) (rest : List Char) :
      cutAt m (cs ++ '/' :: rest) = (cs ++ '/' :: (cutAt m rest).1, (cutAt m rest).2) := by
    have free : m ∉ cs ++ ['/'] := by simp [h, hm]
    simpa using cutAt_append free rest
  simp only [splitPath, cut (m := '#') (by decide) hash, cut (m := '?') (by decide) mark]
  split
  · rw [splitParams_append_slash]
  · rfl

end Parts

/-- A directory begins with a slash. -/
theorem exists_directory_eq (segments : List (List Char)) :
    ∃ path, directory segments = '/' :: path := by
  cases segments <;> exact ⟨_, rfl⟩

section Directory

variable {segments : List (List Char)} (h : ∀ s ∈ segments, IsSegment s)
include h

/-- A directory has slashes in it and nothing else that parts references. -/
theorem not_mem_directory {mark : Char} (hmark : isMark mark) (slash : mark ≠ '/') :
    mark ∉ directory segments := by
  intro hmem
  rcases List.mem_append.1 hmem with hmem | hmem
  · obtain ⟨s, hs, hmem⟩ := List.mem_flatMap.1 hmem
    rcases List.mem_cons.1 hmem with rfl | hmem
    · exact slash rfl
    · exact (h s hs).unmarked mark hmem hmark
  · exact slash (List.mem_singleton.1 hmem)

/-- A directory is a path, with nothing behind it. -/
theorem splitPath_directory (scheme : List Char) :
    splitPath scheme (directory segments) = { scheme, path := directory segments } := by
  have free {m : Char} (hm : isMark m) (slash : m ≠ '/') : m ∉ slashed segments :=
    fun hmem => not_mem_directory h hm slash (List.mem_append_left _ hmem)
  rw [directory, splitPath_append_slash scheme (free rfl (by decide)) (free rfl (by decide))]
  cases hp : hasParams scheme <;> simp [splitPath, hp, cutAt, splitParams]

/-- Names with a slash behind each are a path, with nothing behind it. -/
theorem splitPath_of_names {tail : List Char} (written : Text.split '/' tail = segments ++ [[]])
    (scheme : List Char) : splitPath scheme (unbroken tail) = { scheme, path := tail } := by
  have tail_eq : '/' :: tail = directory segments := by
    rw [← slashed_split, written, slashed_append]
    rfl
  have free {mark : Char} (hmark : isMark mark) (slash : mark ≠ '/') : mark ∉ tail := fun hmem =>
    not_mem_directory h hmark slash (tail_eq ▸ List.mem_cons_of_mem _ hmem)
  have whole : unbroken tail = tail :=
    unbroken_eq_self ⟨free rfl (by decide), free rfl (by decide), free rfl (by decide)⟩
  have parts := splitPath_directory h scheme
  rw [← tail_eq, ← List.nil_append ('/' :: tail),
    splitPath_append_slash scheme List.not_mem_nil List.not_mem_nil] at parts
  rw [whole]
  generalize splitPath scheme tail = r at parts ⊢
  cases r
  simp only [List.nil_append, Reference.mk.injEq, List.cons.injEq, true_and] at parts ⊢
  exact parts

/-- A directory of a site is taken apart into the scheme, the host and the path. -/
theorem Site.split_directory (a : Site) :
    split [] (a.text ++ directory segments) =
      .ok { scheme := a.scheme, host := a.host, path := directory segments } := by
  have unbroken : unbroken (a.text ++ directory segments) = a.text ++ directory segments := by
    have free {m : Char} (hm : isMark m) (other : m ∉ "https:/".toList) :
        m ∉ a.text ++ directory segments := by
      have host : m ∉ a.host := fun hmem => a.unmarked m hmem hm
      have path : m ∉ directory segments :=
        not_mem_directory h hm fun slash => other (slash ▸ by decide)
      rcases a.isWeb with h | h <;> rw [Site.text, h] <;> simp_all
    exact unbroken_eq_self ⟨free rfl (by decide), free rfl (by decide), free rfl (by decide)⟩
  have cleaned : clean (a.text ++ directory segments) = a.text ++ directory segments := by
    refine Eq.trans ?_ unbroken
    rcases a.isWeb with h | h <;> rw [Site.text, h] <;> exact clean_cons (c := 'h') (by decide) _
  have parts : (splitScheme? (clean (a.text ++ directory segments))).getD
      ([], clean (a.text ++ directory segments)) =
        (a.scheme, '/' :: '/' :: (a.host ++ directory segments)) := by
    rw [cleaned, Site.text]
    rcases a.isWeb with h | h <;> rw [h] <;> rfl
  have host : splitHost ('/' :: '/' :: (a.host ++ directory segments)) =
      (a.host, directory segments) := by
    have inside : ∀ c ∈ a.host, !(c == '/' || c == '?' || c == '#') := by
      intro c hc
      have unmarked := a.unmarked c hc
      simp only [isMark, Bool.or_eq_true, not_or] at unmarked
      simp [unmarked]
    obtain ⟨path, hpath⟩ := exists_directory_eq segments
    rw [splitHost, hpath]
    dsimp only
    rw [List.takeWhile_append_of_pos inside, List.dropWhile_append_of_pos inside]
    simp
  have sound : hostFault? (splitHost ('/' :: '/' :: (a.host ++ directory segments))).1 = none := by
    rw [host]
    exact a.sound
  rw [split_eq parts sound, host, splitPath_directory h]

end Directory

/-- What is written behind the path. -/
def Reference.suffix (r : Reference) : List Char :=
  (if r.params.isEmpty then [] else ';' :: r.params) ++
    (if r.query.isEmpty then [] else '?' :: r.query) ++
    (if r.fragment.isEmpty then [] else '#' :: r.fragment)

/-- A reference with a scheme, a host and a path from the root is written in this order, and
what follows the path stands behind it. -/
theorem Reference.text_eq {r : Reference} (scheme : r.scheme ≠ []) (host : r.host ≠ [])
    {path : List Char} (hpath : r.path = '/' :: path) :
    r.text = r.scheme ++ ':' :: '/' :: '/' :: r.host ++ r.path ++ r.suffix := by
  have scheme : r.scheme.isEmpty = false := by simpa using scheme
  have host : r.host.isEmpty = false := by simpa using host
  unfold Reference.text Reference.suffix
  cases r.params.isEmpty <;> cases r.query.isEmpty <;> cases r.fragment.isEmpty <;>
    simp [scheme, host, hpath]

/-- A first segment of a reference that cannot be taken for anything else: it has no colon, and
begins with a character that is not dropped. -/
structure IsFirst (s : List Char) : Prop extends IsSegment s where
  colonless : ':' ∉ s
  visible : ∀ c ∈ s.head?, 0x20 < c.toNat

section First

variable {first : List Char} (h : IsFirst first)
include h

/-- No character that parts a reference is in its first segment. -/
theorem IsFirst.not_mem {mark : Char} (hmark : isMark mark) : mark ∉ first :=
  fun hmem => h.unmarked mark hmem hmark

/-- A reference that begins with such a segment has no scheme, since the segment has no
colon. -/
theorem splitScheme?_of_isFirst (tail : List Char) :
    splitScheme? (first ++ '/' :: tail) = none := by
  have colonless : ∀ c ∈ first, decide (c ≠ ':') :=
    fun c hc => decide_eq_true fun heq => h.colonless (heq ▸ hc)
  have scheme : (first ++ '/' :: tail).takeWhile (fun c => decide (c ≠ ':')) =
      first ++ '/' :: tail.takeWhile (fun c => decide (c ≠ ':')) := by
    rw [List.takeWhile_append_of_pos colonless, List.takeWhile_cons_of_pos (by decide)]
  rw [splitScheme?, scheme]
  split
  · next c cs _ _ heq _ =>
    have slash : ¬ (c :: cs).all isSchemeChar := by
      rw [← heq]
      simp [isSchemeChar]
    exact if_neg fun scheme => slash (Bool.and_eq_true_iff.1 scheme).2
  · rfl

/-- A reference that begins with such a segment has no host. -/
theorem splitHost_of_isFirst (tail : List Char) :
    splitHost (first ++ '/' :: tail) = ([], first ++ '/' :: tail) := by
  obtain ⟨c, cs, rfl⟩ := List.exists_cons_of_ne_nil h.nonempty
  have relative : c ≠ '/' := fun hc => h.slash_not_mem (by simp [hc])
  unfold splitHost
  split
  · next heq => exact absurd (List.cons.inj heq).1 relative
  · rfl

/-- A reference that begins with such a segment is a path, taken apart behind the first
slash. -/
theorem split_of_isFirst (scheme tail : List Char) :
    split scheme (first ++ '/' :: tail) =
      .ok { splitPath scheme (unbroken tail) with
        path := first ++ '/' :: (splitPath scheme (unbroken tail)).path } := by
  have whole : unbroken first = first :=
    unbroken_eq_self ⟨h.not_mem rfl, h.not_mem rfl, h.not_mem rfl⟩
  have cleaned : clean (first ++ '/' :: tail) = first ++ '/' :: unbroken tail := by
    obtain ⟨c, cs, rfl⟩ := List.exists_cons_of_ne_nil h.nonempty
    rw [List.cons_append, clean_cons (h.visible c rfl), ← List.cons_append, unbroken,
      List.filter_append]
    change unbroken _ ++ _ = _
    rw [whole]
    rfl
  have parts : (splitScheme? (clean (first ++ '/' :: tail))).getD
      (scheme, clean (first ++ '/' :: tail)) = (scheme, first ++ '/' :: unbroken tail) := by
    rw [cleaned, splitScheme?_of_isFirst h]
    rfl
  have sound : hostFault? (splitHost (first ++ '/' :: unbroken tail)).1 = none := by
    rw [splitHost_of_isFirst h]
    rfl
  rw [split_eq parts sound, splitHost_of_isFirst h,
    splitPath_append_slash scheme (h.not_mem rfl) (h.not_mem rfl)]
  rfl

end First

/-- The steps of the path in a reference of the web. -/
def steps (cs : List Char) : List (List Char) :=
  Text.split '/' (splitPath "http".toList (unbroken cs)).path

namespace Site

variable (a : Site) {segments : List (List Char)} (h : ∀ s ∈ segments, IsSegment s)

/-- The steps of a reference are the pieces of its path, whatever the scheme of the web. -/
theorem steps_eq (cs : List Char) :
    Text.split '/' (splitPath a.scheme (unbroken cs)).path = steps cs := by
  rcases a.isWeb with h | h <;> rw [h]
  · rfl
  · rfl

include h

/-- A reference without a host is resolved against a directory by its path, and keeps what is
written behind it. -/
theorem resolve_eq {path found : List Char} {u : Reference} (some : path ≠ [])
    (hu : split a.scheme path = .ok u) (scheme : u.scheme = a.scheme) (host : u.host = [])
    (hpath : u.path ≠ []) (hfound : resolvePath (directory segments) u.path = '/' :: found) :
    resolve (a.text ++ directory segments) path =
      .ok (a.text ++ '/' :: found ++ u.suffix) := by
  have base : a.text ++ directory segments ≠ [] := by simp [Site.text]
  have hierarchical : isHierarchical a.scheme := by
    rcases a.isWeb with h | h <;> rw [h] <;> decide
  have within :
      Reference.within { scheme := a.scheme, host := a.host, path := directory segments } u =
      { u with host := a.host, path := '/' :: found } := by
    simp [Reference.within, host, hpath, hfound]
  have text : ({ u with host := a.host, path := '/' :: found } : Reference).text =
      a.text ++ '/' :: found ++ u.suffix := by
    have some : a.scheme ≠ [] := by rcases a.isWeb with h | h <;> rw [h] <;> decide
    rw [Reference.text_eq (by rwa [scheme]) a.nonempty rfl, scheme]
    rfl
  rw [resolve, if_neg (by simpa using base), if_neg (by simpa using some), a.split_directory h]
  change (split a.scheme path >>= _) = _
  rw [hu]
  change (if u.scheme ≠ a.scheme || !isHierarchical u.scheme then _ else _) = _
  rw [if_neg (by simp [scheme, hierarchical]), within, text]
  rfl

variable {first : List Char} (hfirst : IsFirst first)
include hfirst

/-- As long as no `..` leads out of it, a reference stays in the directory of its first segment,
whatever is written behind its path. -/
theorem exists_resolve_of_staysBelow {tail : List Char} (stays : staysBelow 0 (steps tail)) :
    ∃ more, resolve (a.text ++ directory segments) (first ++ '/' :: tail) =
      .ok (a.text ++ directory (segments ++ [first]) ++ more) := by
  rw [← a.steps_eq] at stays
  obtain ⟨more, found⟩ := exists_resolvePath_of_staysBelow h hfirst.toIsSegment stays
  obtain ⟨path, hpath⟩ := exists_directory_eq (segments ++ [first])
  rw [hpath] at found ⊢
  exact ⟨more ++ (splitPath a.scheme (unbroken tail)).suffix,
    (a.resolve_eq h (by simp) (split_of_isFirst hfirst a.scheme tail) rfl rfl (by simp)
      found).trans (by simp [Reference.suffix])⟩

/-- Segments with a slash behind each are written behind the directory as they are. -/
theorem resolve_of_names {names : List (List Char)} (hnames : ∀ s ∈ names, IsSegment s)
    {tail : List Char} (written : Text.split '/' tail = names ++ [[]]) :
    resolve (a.text ++ directory segments) (first ++ '/' :: tail) =
      .ok (a.text ++ directory segments ++ first ++ '/' :: tail) := by
  have parts := split_of_isFirst hfirst a.scheme tail
  rw [splitPath_of_names hnames written] at parts
  have found := resolvePath_of_names h hfirst.toIsSegment hnames written
  obtain ⟨path, hpath⟩ := exists_directory_eq segments
  rw [hpath, List.cons_append, List.cons_append] at found
  rw [a.resolve_eq h (by simp) parts rfl rfl (by simp) (by rw [hpath]; exact found), hpath]
  simp [Reference.suffix]

end Site
end Url
end BareMetal
