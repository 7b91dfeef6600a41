/-
# Where an identifier leads

Five operations ask for one member of a collection, by an identifier that is any text:

    interface/collection/identifier/rest

The identifier is written into the path as it is, so that it is resolved along with it.

| identifier | what is asked for |
| --- | --- |
| segments with single slashes between them (`IsName`) | that member, and by no other name |
| one whose steps never lead above the collection | something in the collection |
| any other | perhaps something outside of it |

The first two rows are `Controller.identifier_stays_inside`. By the third row two identifiers may
lead to one member, and one may lead out of its collection
(`Controller.identifier_leads_outside`).
-/

import BareMetal.Proofs.Controller.Dispatch
import BareMetal.Proofs.Http.Address
import Mathlib

namespace BareMetal

namespace Operation

/-- The operations on one member of a collection; they ask for `collection/identifier/rest`. -/
inductive Identifies : {α : Type} → (String → Operation α) → String → String → Prop
  | getFile : Identifies getFile "files" ""
  | fileContent : Identifies fileContent "files" ""
  | tagMachines : Identifies tagMachines "tags" ""
  | blockDevices : Identifies blockDevices "nodes" "blockdevices/"
  | volumeGroups : Identifies volumeGroups "nodes" "volume-groups/"

/-- An identifier that names a member: segments with single slashes between them. -/
def IsName (identifier : String) : Prop :=
  ∀ s ∈ Text.split '/' identifier.toList, Url.IsSegment s

namespace Identifies

variable {α : Type} {method : String → Operation α} {collection rest : String}
  (h : Identifies method collection rest)
include h

/-- The path of the operation is the collection, the identifier and the rest, with slashes
between them. -/
theorem path_eq (identifier : String) :
    (method identifier).call.path = collection ++ "/" ++ (identifier ++ "/" ++ rest) := by
  cases h <;> simp [call, String.append_assoc]

/-- An identifier that is not empty is not refused. -/
theorem usable {identifier : String} (named : identifier ≠ "") :
    ¬ (method identifier).Unusable := by
  cases h with
  | getFile | fileContent | tagMachines => exact named
  | blockDevices | volumeGroups => exact not_false

/-- None of these operations takes a number. -/
theorem numbers_eq_nil (identifier : String) : (method identifier).numbers = [] := by
  cases h <;> rfl

/-- The name of a collection is a word of small letters. -/
theorem isFirst : Url.IsFirst collection.toList := by
  have word {w : List Char} (some : w ≠ []) (letters : w.all Char.isLower) : Url.IsFirst w := by
    have letter {c : Char} (hc : c ∈ w) : c.isLower := List.all_eq_true.1 letters c hc
    have dotless : '.' ∉ w := fun hc => absurd (letter hc) (by decide)
    refine ⟨⟨some, ?_, ?_, fun c hc mark => ?_⟩, fun hc => absurd (letter hc) (by decide),
      fun c hc => ?_⟩
    · rintro rfl
      exact dotless (by simp)
    · rintro rfl
      exact dotless (by simp)
    · have small := letter hc
      simp only [Url.isMark, Bool.or_eq_true, beq_iff_eq] at mark
      rcases mark with ((((rfl | rfl) | rfl) | rfl) | rfl) | rfl <;> cases small
    · have small := letter (List.mem_of_head? hc)
      simp only [Char.isLower, Bool.and_eq_true, decide_eq_true_eq] at small
      exact lt_of_lt_of_le (by decide) small.1
  cases h <;> exact word (by decide) rfl

end Identifies

/-- A name is not empty. -/
theorem IsName.nonempty {identifier : String} (h : IsName identifier) : identifier ≠ "" := by
  rintro rfl
  exact (h [] (by simp [Text.split])).nonempty rfl

/-- What is written behind a collection for a name: segments with a slash behind each. -/
theorem Identifies.split_of_isName {α : Type} {method : String → Operation α}
    {collection rest : String} (h : Identifies method collection rest) {identifier : String}
    (name : IsName identifier) :
    ∃ names, (∀ s ∈ names, Url.IsSegment s) ∧
      Text.split '/' (identifier ++ "/" ++ rest).toList = names ++ [[]] := by
  have split : Text.split '/' (identifier ++ "/" ++ rest).toList =
      Text.split '/' identifier.toList ++ Text.split '/' rest.toList := by
    rw [← Text.split_append_cons]
    simp
  have behind : ∃ names, (∀ s ∈ names, Url.IsSegment s) ∧
      Text.split '/' rest.toList = names ++ [[]] := by
    cases h with
    | getFile | fileContent | tagMachines => exact ⟨[], nofun, rfl⟩
    | blockDevices =>
      exact ⟨["blockdevices".toList], List.forall_mem_singleton.2
        (Url.isSegment_of_all (by decide) (by decide) (by decide) rfl), rfl⟩
    | volumeGroups =>
      exact ⟨["volume-groups".toList], List.forall_mem_singleton.2
        (Url.isSegment_of_all (by decide) (by decide) (by decide) rfl), rfl⟩
  obtain ⟨names, segments, written⟩ := behind
  refine ⟨Text.split '/' identifier.toList ++ names, ?_, by rw [split, written, List.append_assoc]⟩
  rw [List.forall_mem_append]
  exact ⟨name, segments⟩

end Operation

namespace Controller

variable {α : Type} (c : Controller)

/-- The operation sends one request, whatever the replies are, and asks for this URL. -/
def AsksFor (op : Operation α) (url : String) : Prop :=
  ∀ replies, ∃ r, requests ((c.perform op).run replies).events = [r] ∧ r.url = url

variable {c}

/-- An operation that takes no number asks for the URL of its path. -/
theorem asksFor_of_urlFor {op : Operation α} (usable : ¬ op.Unusable) (none : op.numbers = [])
    {url : String} (resolves : c.client.urlFor op.call.path = .ok url) : c.AsksFor op url :=
  fun replies =>
    ⟨_, c.requests_perform_of_usable usable (.of_numbers_eq_nil none) resolves replies, rfl⟩

/-- An operation asks for one URL at most. -/
theorem AsksFor.unique {op : Operation α} {url other : String} (h : c.AsksFor op url)
    (h' : c.AsksFor op other) : url = other := by
  obtain ⟨r, sent, rfl⟩ := h []
  obtain ⟨r', sent', rfl⟩ := h' []
  rw [sent] at sent'
  rw [List.singleton_inj.1 sent']

section Inside

variable {a : Url.Site} {segments : List (List Char)} (site : c.client.At a segments)
  {method : String → Operation α} {collection rest : String}
  (h : Operation.Identifies method collection rest) {identifier : String}
include site h

/-- A path whose steps never lead out of the collection asks for something in the
collection. -/
theorem exists_asksFor_of_staysBelow (named : identifier ≠ "")
    (stays : Url.staysBelow 0 (Url.steps (identifier ++ "/" ++ rest).toList)) :
    ∃ more, c.AsksFor (method identifier) (c.client.apiUrl ++ collection ++ "/" ++ more) := by
  obtain ⟨more, resolves⟩ := site.exists_urlFor_of_staysBelow h.isFirst stays
  rw [← h.path_eq] at resolves
  exact ⟨more, asksFor_of_urlFor (h.usable named) (h.numbers_eq_nil _) resolves⟩

/-- Below the collection a name is asked for as it is written. -/
theorem asksFor_of_isName (name : Operation.IsName identifier) :
    c.AsksFor (method identifier)
      (c.client.apiUrl ++ collection ++ "/" ++ (identifier ++ "/" ++ rest)) := by
  obtain ⟨names, segments, written⟩ := h.split_of_isName name
  have resolves := site.urlFor_of_names h.isFirst segments written
  rw [← h.path_eq] at resolves
  exact asksFor_of_urlFor (h.usable name.nonempty) (h.numbers_eq_nil _) resolves

end Inside

/-- **An identifier stays in its collection, as long as it does not lead up.** For a client of
a site and every operation on one member of a collection: what is asked for is in the
collection, unless a `..` in the identifier leads above it. An identifier that is made of
segments is asked for as it is, and no other such identifier leads to the same URL. -/
theorem identifier_stays_inside {a : Url.Site} {segments : List (List Char)}
    (site : c.client.At a segments) {method : String → Operation α} {collection rest : String}
    (h : Operation.Identifies method collection rest) :
    (∀ identifier, identifier ≠ "" →
      Url.staysBelow 0 (Url.steps (identifier ++ "/" ++ rest).toList) →
      ∃ more, c.AsksFor (method identifier) (c.client.apiUrl ++ collection ++ "/" ++ more)) ∧
    (∀ identifier, Operation.IsName identifier →
      c.AsksFor (method identifier)
        (c.client.apiUrl ++ collection ++ "/" ++ (identifier ++ "/" ++ rest))) ∧
    ∀ identifier other url, Operation.IsName identifier → Operation.IsName other →
      c.AsksFor (method identifier) url → c.AsksFor (method other) url → identifier = other := by
  refine ⟨fun _ => exists_asksFor_of_staysBelow site h, fun _ => asksFor_of_isName site h,
    fun identifier other url name name' asks asks' => ?_⟩
  have same := ((asksFor_of_isName site h name).unique asks).trans
    (asks'.unique (asksFor_of_isName site h name'))
  rw [← String.toList_inj] at same ⊢
  simpa using same

/-- The site of a region controller. -/
def maas : Url.Site where
  scheme := "http".toList
  host := "maas:5240".toList
  isWeb := .inl rfl
  nonempty := by decide
  unmarked c hc := by
    have unmarked : "maas:5240".toList.all (!Url.isMark ·) := rfl
    simpa using List.all_eq_true.1 unmarked c hc
  sound := by decide

/-- A file behind a detour, and the volume groups of a machine. -/
theorem identifier_stays_inside_maas :
    let c : Controller := ⟨{ baseUrl := "http://maas:5240/MAAS/" }, { release := [2, 0] }, .empty⟩
    c.client.At maas ["MAAS".toList] ∧
      (∃ more, c.AsksFor (.getFile "a/./../b?c") (c.client.apiUrl ++ "files" ++ "/" ++ more)) ∧
      c.AsksFor (.volumeGroups "4y3ha3")
        (c.client.apiUrl ++ "nodes" ++ "/" ++ "4y3ha3/volume-groups/") := by
  intro c
  have segment : Url.IsSegment "MAAS".toList :=
    Url.isSegment_of_all (by decide) (by decide) (by decide) rfl
  have version : Url.IsSegment "2.0".toList :=
    Url.isSegment_of_all (by decide) (by decide) (by decide) rfl
  have name : Operation.IsName "4y3ha3" := List.forall_mem_singleton.2
    (Url.isSegment_of_all (by decide) (by decide) (by decide) rfl)
  have site : c.client.At maas ["MAAS".toList] :=
    ⟨⟨1, by decide⟩, List.forall_mem_singleton.2 segment, version⟩
  exact ⟨site, (identifier_stays_inside site .getFile).1 "a/./../b?c" (by decide) (by decide),
    (identifier_stays_inside site .volumeGroups).2.1 "4y3ha3" name⟩

/-- **An identifier may lead out of its collection.** The name of a file leads to the zones,
and two names lead to one file. -/
theorem identifier_leads_outside :
    let c : Controller := ⟨{ baseUrl := "http://maas:5240/MAAS/" }, { release := [2, 0] }, .empty⟩
    (∃ url, c.AsksFor (.getFile "../zones") url ∧ c.AsksFor .zones url ∧
      ¬ (c.client.apiUrl ++ "files/").toList <+: url.toList) ∧
      ∃ url, c.AsksFor (.getFile "a") url ∧ c.AsksFor (.getFile "a/") url := by
  intro c
  have up : c.client.urlFor "files/../zones/" = .ok "http://maas:5240/MAAS/api/2.0/zones/" := by
    cbv
  have zones : c.client.urlFor "zones/" = .ok "http://maas:5240/MAAS/api/2.0/zones/" := by cbv
  have single : c.client.urlFor "files/a/" = .ok "http://maas:5240/MAAS/api/2.0/files/a/" := by cbv
  have double : c.client.urlFor "files/a//" = .ok "http://maas:5240/MAAS/api/2.0/files/a/" := by cbv
  refine ⟨⟨_, asksFor_of_urlFor ?_ rfl up, asksFor_of_urlFor ?_ rfl zones, by decide⟩,
    _, asksFor_of_urlFor ?_ rfl single, asksFor_of_urlFor ?_ rfl double⟩ <;>
    simp [Operation.Unusable]

end Controller
end BareMetal
