/-
# Lists of sub-architectures

The sub-architectures of a boot resource are a set of names, sent as one text. The members are what
is left of the pieces between commas without the spacing around them, as far as something is left
(`BootResource.reads_list_as_set`).

| in the list | in the set |
| --- | --- |
| the order of the names, their repetitions | does not count |
| spacing around a name, an empty piece, a piece of spacing | does not count |
| a comma between two lists | their union |
-/

import BareMetal.Proofs.Reader.Fields
import BareMetal.Proofs.Text.Names
import BareMetal.Proofs.Collections

namespace BareMetal
namespace BootResource

/-- The set of the names in a list. -/
def listed (list : String) : NameSet := .ofList (subarchNames list)

/-- The name can stand in a list, and is a piece of this list, perhaps with spacing around it. -/
structure IsListedIn (list name : String) : Prop where
  isListable : IsListable name
  piece : ∃ piece, Text.IsPiece ',' list.toList piece ∧
    Text.IsPadded Text.isSpacing piece name.toList

/-- The list is a row of pieces with commas in between. Each piece is a name of the set with
spacing around it, or nothing but spacing, and each name of the set has a piece. -/
def Writes (list : String) (set : NameSet) : Prop :=
  ∃ pieces : List (List Char), list.toList = [','].intercalate pieces ∧
    (∀ p ∈ pieces, (∀ c ∈ p, Text.isSpacing c) ∨
      ∃ n ∈ set, Text.IsPadded Text.isSpacing p n.toList) ∧
    ∀ n ∈ set, ∃ p ∈ pieces, Text.IsPadded Text.isSpacing p n.toList

section Names

variable {list name : String}

/-- A name is listed if it is not empty and is what stays of a piece between commas without
the blanks around it. -/
theorem mem_listed_iff : name ∈ listed list ↔
    name ≠ "" ∧ ∃ p ∈ Text.split ',' list.toList, Text.trim Text.isSpacing p = name.toList := by
  rw [listed, NameSet.mem_ofList, subarchNames, List.filterMap_map, List.mem_filterMap]
  constructor
  · rintro ⟨p, mem, kept⟩
    obtain ⟨some, rfl⟩ : Text.trim Text.isSpacing p ≠ [] ∧
        String.ofList (Text.trim Text.isSpacing p) = name := by simpa using kept
    exact ⟨by simpa using some, p, mem, String.toList_ofList.symm⟩
  · rintro ⟨some, p, mem, trimmed⟩
    refine ⟨p, mem, ?_⟩
    rw [Function.comp_apply, trimmed, String.ofList_toList, if_neg (by simpa using some)]

/-- The comma is no blank, so taking blanks off the ends of a piece does not join pieces. -/
theorem comma_not_isSpacing : ¬ Text.isSpacing ',' := by decide

/-- The members of the set are the names in the list: trimming takes exactly the spacing around a
name from its piece, and what is left of a piece can stand in a list. -/
theorem mem_listed_iff_isListedIn : name ∈ listed list ↔ IsListedIn list name := by
  rw [mem_listed_iff]
  constructor
  · rintro ⟨some, p, mem, trimmed⟩
    have piece := Text.mem_split_iff.1 mem
    have padded : Text.IsPadded Text.isSpacing p name.toList :=
      trimmed ▸ Text.isPadded_trim Text.isSpacing p
    have commaless : ',' ∉ name.toList := fun inside => piece.free (padded.mem inside)
    exact ⟨⟨some, commaless, trimmed ▸ Text.head?_trim _ p, trimmed ▸ Text.getLast?_trim _ p⟩,
      p, piece, padded⟩
  · rintro ⟨listable, p, piece, padded⟩
    exact ⟨listable.nonempty, p, piece.mem_split,
      (Text.trim_eq_iff_isPadded listable.first listable.last).2 padded⟩

/-- Of two lists with a comma between them the names are those of one and of the other. -/
theorem listed_append (s t : String) :
    name ∈ listed (s ++ "," ++ t) ↔ name ∈ listed s ∨ name ∈ listed t := by
  have pieces : Text.split ',' (s ++ "," ++ t).toList =
      Text.split ',' s.toList ++ Text.split ',' t.toList := by
    rw [← Text.split_append_cons]
    simp
  simp only [mem_listed_iff, pieces, List.mem_append]
  constructor
  · rintro ⟨some, p, mem | mem, trimmed⟩
    · exact .inl ⟨some, p, mem, trimmed⟩
    · exact .inr ⟨some, p, mem, trimmed⟩
  · rintro (⟨some, p, mem, trimmed⟩ | ⟨some, p, mem, trimmed⟩)
    · exact ⟨some, p, .inl mem, trimmed⟩
    · exact ⟨some, p, .inr mem, trimmed⟩

/-- The list is split into the pieces that it was written with, since none of them has a comma. -/
theorem listed_of_writes {set : NameSet} (listable : ∀ n ∈ set, IsListable n)
    (writes : Writes list set) : listed list = set := by
  obtain ⟨pieces, written, each, all⟩ := writes
  have trimmed {p : List Char} {n : String} (mem : n ∈ set)
      (padded : Text.IsPadded Text.isSpacing p n.toList) :
      Text.trim Text.isSpacing p = n.toList :=
    (Text.trim_eq_iff_isPadded (listable n mem).first (listable n mem).last).2 padded
  have free : ∀ p ∈ pieces, ',' ∉ p := by
    intro p mem comma
    rcases each p mem with blank | ⟨n, named, padded⟩
    · exact comma_not_isSpacing (blank _ comma)
    · exact (padded.mem_or comma).elim (listable n named).commaless comma_not_isSpacing
  have split {p : List Char} (mem : p ∈ Text.split ',' list.toList) : p ∈ pieces ∨ p = [] := by
    rw [written] at mem
    by_cases some : pieces = []
    · subst some
      exact .inr (by simpa [Text.split] using mem)
    · exact .inl (Text.split_intercalate some free ▸ mem)
  refine NameSet.ext fun name => mem_listed_iff.trans ⟨?_, fun mem => ?_⟩
  · rintro ⟨some, p, mem, left⟩
    have empty (h : Text.trim Text.isSpacing p = []) : name ∈ set :=
      absurd (String.toList_eq_nil_iff.1 (left.symm.trans h)) some
    rcases split mem with mem | rfl
    · rcases each p mem with blank | ⟨n, named, padded⟩
      · exact empty (Text.trim_of_forall blank)
      · exact String.toList_injective (left.symm.trans (trimmed named padded)) ▸ named
    · exact empty (Text.trim_nil _)
  · obtain ⟨p, piece, padded⟩ := all name mem
    refine ⟨(listable name mem).nonempty, p, ?_, trimmed mem padded⟩
    rw [written, Text.split_intercalate (List.ne_nil_of_mem piece) free]
    exact piece

end Names

section Reading

variable {version : Except Failure Version} {es : Entries Datum} {b : BootResource}

/-- The names of a boot resource that was read are those that its text lists. -/
theorem subarches_of_readAt (reads : reader.readAt version (.map es) = .ok b) {s : String}
    (given : es.get? "subarches" = some (.text s)) : b.subarches = listed s := by
  obtain ⟨v, rfl, recent⟩ := Kind.recent_of_readAt_eq_ok (k := .bootResource) reads
  obtain ⟨_, ⟨⟩, row, read, made⟩ := (Kind.readAt_eq_ok_iff (k := .bootResource) recent).1 reads
  obtain ⟨uri, id, name, type, architecture, subarches, flavor, ⟨⟩⟩ := row
  obtain rfl := Except.ok.inj made
  -- five fields stand in front of the list
  iterate 5 replace read := (Schema.readEntries_cons_eq_ok_iff.1 read).2
  have text := (Schema.readEntries_cons_eq_ok_iff.1 read).1
  rw [Field.read_present given] at text
  obtain rfl := Except.ok.inj text
  rfl

/-- Any list at all can be read. -/
theorem exists_readAt_put (reads : reader.readAt version (.map es) = .ok b) (s : String) :
    ∃ r, reader.readAt version (.map (es.put "subarches" (.text s))) = .ok r := by
  obtain ⟨v, rfl, recent⟩ := Kind.recent_of_readAt_eq_ok (k := .bootResource) reads
  obtain ⟨_, ⟨⟩, row, read, -⟩ := (Kind.readAt_eq_ok_iff (k := .bootResource) recent).1 reads
  obtain ⟨row', read'⟩ := Schema.exists_readEntries_put (by decide) read
    (f := { name := "subarches", shape := .text, default := some "" }) (by simp [Kind.schema])
    (d := .text s) rfl
  exact ⟨ofRow row',
    (Kind.readAt_eq_ok_iff (k := .bootResource) recent).2 ⟨_, rfl, row', read', rfl⟩⟩

/-- **A list of sub-architectures is read as a set.** A boot resource that is read with a list keeps
the set of the names in it, and any list can stand in the place of another. The members are the
pieces that are left without the spacing around them, a comma between two lists unites their sets,
and a set is got back however it is written. -/
theorem reads_list_as_set (reads : reader.readAt version (.map es) = .ok b) :
    (∀ s, es.get? "subarches" = some (.text s) → b.subarches = listed s) ∧
      (∀ s, ∃ r, reader.readAt version (.map (es.put "subarches" (.text s))) = .ok r ∧
        r.subarches = listed s) ∧
      (∀ s name, name ∈ listed s ↔ IsListedIn s name) ∧
      (∀ s t name, name ∈ listed (s ++ "," ++ t) ↔ name ∈ listed s ∨ name ∈ listed t) ∧
      ∀ s set, (∀ n ∈ set, IsListable n) → Writes s set → listed s = set := by
  refine ⟨fun s => subarches_of_readAt reads, fun s => ?_, fun _ _ => mem_listed_iff_isListedIn,
    fun s t _ => listed_append s t, fun _ _ => listed_of_writes⟩
  obtain ⟨r, read⟩ := exists_readAt_put reads s
  exact ⟨r, read, subarches_of_readAt read (Entries.get?_put_self es _ _)⟩

/-- Two names with spacing of several scripts around them, one of them twice, between empty
pieces and pieces of spacing. -/
theorem reads_list_as_set_spaced :
    let list := ",\u3000hwe-t\x1c,, \t,ga-16.04 ,hwe-t,\u2003"
    let set : NameSet := ⟨["ga-16.04", "hwe-t"], by decide⟩
    let es : Entries Datum := [("resource_uri", .text "/b/5/"), ("id", .int 5),
      ("name", .text "ubuntu"), ("type", .text "Synced"), ("architecture", .text "amd64/hwe-t"),
      ("subarches", .text list)]
    ∃ b, reader.readAt (Version.ofText "2.0") (.map es) = .ok b ∧
      es.get? "subarches" = some (.text list) ∧ (∀ n ∈ set, IsListable n) ∧ Writes list set ∧
      b.subarches = set := by
  intro list set es
  have hwe : "hwe-t" ∈ set := .tail _ (.head _)
  have ga : "ga-16.04" ∈ set := .head _
  have listable : ∀ n ∈ set, IsListable n := by
    refine List.forall_mem_cons.2 ⟨?_, List.forall_mem_singleton.2 ?_⟩ <;> constructor <;> decide
  have wide : Text.IsPadded Text.isSpacing "\u3000hwe-t\x1c".toList "hwe-t".toList :=
    ⟨['\u3000'], ['\x1c'], by decide, List.forall_mem_singleton.2 (by decide),
      List.forall_mem_singleton.2 (by decide)⟩
  have behind : Text.IsPadded Text.isSpacing "ga-16.04 ".toList "ga-16.04".toList :=
    ⟨[], [' '], by decide, nofun, List.forall_mem_singleton.2 (by decide)⟩
  have bare : Text.IsPadded Text.isSpacing "hwe-t".toList "hwe-t".toList :=
    ⟨[], [], by decide, nofun, nofun⟩
  have writes : Writes list set := by
    refine ⟨[[], "\u3000hwe-t\x1c".toList, [], " \t".toList, "ga-16.04 ".toList, "hwe-t".toList,
      ['\u2003']], by decide, ?_, ?_⟩
    · simp only [List.forall_mem_cons]
      exact ⟨.inl nofun, .inr ⟨_, hwe, wide⟩, .inl nofun, .inl (by simp; decide),
        .inr ⟨_, ga, behind⟩, .inr ⟨_, hwe, bare⟩, .inl ⟨by decide, nofun⟩, nofun⟩
    · refine List.forall_mem_cons.2 ⟨⟨_, ?_, behind⟩, List.forall_mem_singleton.2 ⟨_, ?_, bare⟩⟩ <;>
        decide
  have reads := (Kind.readAt_eq_ok_iff (k := .bootResource) (v := { release := [2, 0] })
    (by decide)).2
      ⟨es, rfl, ("/b/5/", 5, "ubuntu", "Synced", "amd64/hwe-t", list, "", ()), rfl, rfl⟩
  obtain ⟨kept, -, -, -, back⟩ := reads_list_as_set reads
  exact ⟨_, reads, rfl, listable, writes, (kept list rfl).trans (back list set listable writes)⟩

end Reading

end BootResource
end BareMetal
