/-
# The form of an allocation

A machine is asked for with a form in which every constraint has a key of its own:

| constraint | key | value |
| --- | --- | --- |
| host name, system ID, architecture, zone | `name`, `system_id`, `arch`, `zone` | the text |
| agent name, comment | `agent_name`, `comment` | the text |
| least count of CPUs, least memory | `cpu_count`, `mem` | the number in decimal digits |
| tags, tags to avoid, zones to avoid | `tags`, `not_tags`, `not_in_zone` | the names, with commas |
| only check | `dry_run` | `true` |

A constraint that is not given has no key. An empty text or an empty list is not given, but a
minimum of zero is. Nothing is posted for a minimum with more than 4300 digits. Apart from that,
each constraint is got back from the form (`Allocation.SaidBy`), and two
allocations with the same form are the same (`Controller.allocation_forms_tell_apart`).
-/

import BareMetal.Proofs.Collections
import BareMetal.Proofs.Controller.Dispatch
import BareMetal.Proofs.Number.Spelling
import BareMetal.Proofs.Text.Names

namespace BareMetal

namespace Arguments

variable {arguments : Arguments}

/-- What has a value keeps its place. -/
theorem names_given_sublist (arguments : Arguments) :
    List.Sublist arguments.given.names (arguments.map Prod.fst) := by
  induction arguments with
  | nil => exact .slnil
  | cons a rest ih =>
    obtain ⟨name, _ | d⟩ := a
    · exact ih.cons name
    · exact ih.cons_cons name

/-- The parameters that are given are the arguments that have a value. -/
theorem mem_given {name : String} {d : Datum} :
    (name, d) ∈ arguments.given ↔ (name, some d) ∈ arguments := by
  simp [given]

/-- An argument has its value under its name, if it has one. -/
theorem get?_given (distinct : (arguments.map Prod.fst).Nodup) {name : String} {o : Option Datum}
    (mem : (name, o) ∈ arguments) : arguments.given.get? name = o := by
  cases o with
  | some d =>
    exact Entries.get?_of_mem (distinct.sublist (names_given_sublist arguments)) (mem_given.2 mem)
  | none =>
    refine Option.eq_none_iff_forall_ne_some.2 fun d h => ?_
    have other : (name, some d) ∈ arguments := mem_given.1 (Entries.mem_of_get? h)
    cases List.inj_on_of_nodup_map distinct mem other rfl

/-- A text can be told from the argument that is made of it: the empty one is the one that
is left out. -/
theorem text?_injective : Function.Injective text? := by
  intro s t h
  by_cases hs : s = "" <;> by_cases ht : t = "" <;> simp_all [text?]

/-- Numbers that are given in the same way are equal, and only none is left out. -/
theorem number?_injective : Function.Injective number? :=
  Option.map_injective fun _ _ h => Numeral.toString_injective (Datum.text.inj h)

end Arguments

/-- What a form says under a key about several names: nothing if there are none, and else a text
that falls apart at its commas into the names, in order. -/
structure ListsNames (form : Params) (key : String) (names : List String) : Prop where
  absent : names = [] → form.get? key = none
  given : names ≠ [] → ∃ s, form.get? key = some (.text s) ∧
    Text.split ',' s.toList = names.map String.toList

/-- Names without commas are got back from what is written with commas in between. -/
theorem ListsNames.of_joined {form : Params} {key : String} {names : List String}
    (h : form.get? key = Arguments.joined? names) (free : ∀ s ∈ names, ',' ∉ s.toList) :
    ListsNames form key names where
  absent none := by rw [h, Arguments.joined?, if_pos none]
  given some := by
    refine ⟨_, h.trans (if_neg some), ?_⟩
    rw [String.toList_intercalate]
    refine Text.split_intercalate (by simpa using some) fun p hp => ?_
    obtain ⟨s, hs, rfl⟩ := List.mem_map.1 hp
    exact free s hs

/-- An empty list is told apart from that of the empty name: the latter has a text. -/
theorem ListsNames.unique {form form' : Params} {key : String} {names names' : List String}
    (h : ListsNames form key names) (h' : ListsNames form' key names')
    (same : form.get? key = form'.get? key) : names = names' := by
  by_cases none : names = [] <;> by_cases none' : names' = []
  · rw [none, none']
  · obtain ⟨s, hs, -⟩ := h'.given none'
    rw [← same, h.absent none] at hs
    cases hs
  · obtain ⟨s, hs, -⟩ := h.given none
    rw [same, h'.absent none'] at hs
    cases hs
  · obtain ⟨s, hs, pieces⟩ := h.given none
    obtain ⟨s', hs', pieces'⟩ := h'.given none'
    obtain rfl : s = s' := by simpa using hs.symm.trans (same.trans hs')
    exact List.map_injective_iff.2 (fun _ _ => String.toList_injective) (pieces.symm.trans pieces')

attribute [ext] Allocation

namespace Allocation

open Arguments in
/-- What a form says about an allocation, and nothing else. -/
structure SaidBy (a : Allocation) (form : Params) : Prop where
  hostname : form.get? "name" = text? a.hostname
  systemId : form.get? "system_id" = text? a.systemId
  architecture : form.get? "arch" = text? a.architecture
  minCpuCount : form.get? "cpu_count" = number? a.minCpuCount
  minMemory : form.get? "mem" = number? a.minMemory
  tags : ListsNames form "tags" a.tags
  notTags : ListsNames form "not_tags" a.notTags
  zone : form.get? "zone" = text? a.zone
  notInZone : ListsNames form "not_in_zone" a.notInZone
  agentName : form.get? "agent_name" = text? a.agentName
  comment : form.get? "comment" = text? a.comment
  dryRun : form.get? "dry_run" = if a.dryRun then some (.text "true") else none
  once : form.names.Nodup
  nothingElse : form.names ⊆ ["name", "system_id", "arch", "cpu_count", "mem", "tags", "not_tags",
    "zone", "not_in_zone", "agent_name", "comment", "dry_run"]

/-- No name in a list has a comma. -/
def IsCommaFree (a : Allocation) : Prop :=
  ∀ s ∈ a.tags ++ a.notTags ++ a.notInZone, ',' ∉ s.toList

instance (a : Allocation) : Decidable a.IsCommaFree :=
  inferInstanceAs (Decidable (∀ s ∈ a.tags ++ a.notTags ++ a.notInZone, ',' ∉ s.toList))

/-- If its lists have no name with a comma, the arguments of an allocation say what it asks
for. -/
theorem saidBy_given {a : Allocation} (free : a.IsCommaFree) :
    a.SaidBy (Operation.allocateMachine a).call.arguments.given := by
  simp only [IsCommaFree, List.forall_mem_append] at free
  obtain ⟨⟨tags, notTags⟩, notInZone⟩ := free
  have distinct : ((Operation.allocateMachine a).call.arguments.map Prod.fst).Nodup := by
    simp [Operation.call]
  have value {name : String} {o : Option Datum}
      (mem : (name, o) ∈ (Operation.allocateMachine a).call.arguments) :=
    Arguments.get?_given distinct mem
  have names := Arguments.names_given_sublist (Operation.allocateMachine a).call.arguments
  exact {
    hostname := value (by simp [Operation.call])
    systemId := value (by simp [Operation.call])
    architecture := value (by simp [Operation.call])
    minCpuCount := value (by simp [Operation.call])
    minMemory := value (by simp [Operation.call])
    tags := .of_joined (value (by simp [Operation.call])) tags
    notTags := .of_joined (value (by simp [Operation.call])) notTags
    zone := value (by simp [Operation.call])
    notInZone := .of_joined (value (by simp [Operation.call])) notInZone
    agentName := value (by simp [Operation.call])
    comment := value (by simp [Operation.call])
    dryRun := value (by simp [Operation.call])
    once := distinct.sublist names
    nothingElse := names.subset }

/-- A form is said by one allocation only, whatever the order of its keys. -/
theorem SaidBy.unique {a b : Allocation} {form form' : Params} (ha : a.SaidBy form)
    (hb : b.SaidBy form') (same : ∀ key, form.get? key = form'.get? key) : a = b := by
  have text {key s t : String} (hs : form.get? key = Arguments.text? s)
      (ht : form'.get? key = Arguments.text? t) : s = t :=
    Arguments.text?_injective (hs.symm.trans ((same key).trans ht))
  have number {key : String} {n m : Option Int} (hn : form.get? key = Arguments.number? n)
      (hm : form'.get? key = Arguments.number? m) : n = m :=
    Arguments.number?_injective (hn.symm.trans ((same key).trans hm))
  have flag : a.dryRun = b.dryRun := by
    have h := ha.dryRun.symm.trans ((same _).trans hb.dryRun)
    cases hda : a.dryRun <;> cases hdb : b.dryRun <;> simp_all
  exact Allocation.ext (text ha.hostname hb.hostname) (text ha.systemId hb.systemId)
    (text ha.architecture hb.architecture) (number ha.minCpuCount hb.minCpuCount)
    (number ha.minMemory hb.minMemory) (ha.tags.unique hb.tags (same _))
    (ha.notTags.unique hb.notTags (same _)) (text ha.zone hb.zone)
    (ha.notInZone.unique hb.notInZone (same _)) (text ha.agentName hb.agentName)
    (text ha.comment hb.comment) flag

end Allocation

namespace Controller

variable (c : Controller)

/-- The form that an operation is asked for with, whatever comes back: one request is sent, and
this is its form. -/
def Posts {α : Type} (op : Operation α) (form : Params) : Prop :=
  ∀ replies, ∃ r, requests ((c.perform op).run replies).events = [r] ∧ r.form = some form

/-- One form is posted: the one that is posted when there is no reply. -/
theorem Posts.unique {c : Controller} {α : Type} {op : Operation α} {form form' : Params}
    (h : c.Posts op form) (h' : c.Posts op form') : form = form' := by
  obtain ⟨r, sent, hr⟩ := h []
  obtain ⟨r', sent', hr'⟩ := h' []
  obtain rfl := List.singleton_inj.1 (sent.symm.trans sent')
  exact Option.some.inj (hr.symm.trans hr')

variable {c} in
/-- A minimum that makes sense and can be written is posted. -/
theorem posts_allocation {url : String} (resolves : c.client.urlFor "machines/" = .ok url)
    {a : Allocation} (usable : ¬ (Operation.allocateMachine a).Unusable)
    (writable : (Operation.allocateMachine a).IsWritable) :
    c.Posts (.allocateMachine a) (Operation.allocateMachine a).call.arguments.given :=
  fun replies => ⟨_, c.requests_perform_of_usable usable writable resolves replies, rfl⟩

/-- What is posted can be written. -/
theorem Posts.isWritable {c : Controller} {α : Type} {op : Operation α} {form : Params}
    (posts : c.Posts op form) : op.IsWritable := by
  by_contra long
  obtain ⟨message, refused⟩ := c.exists_run_perform_eq_error (.inr long) []
  obtain ⟨r, sent, -⟩ := posts []
  rw [refused] at sent
  cases sent

/-- **An allocation asks for what it was given, and for nothing else.** An allocation whose minimums
make sense is posted exactly if they have few enough digits to be written. If its names have no
commas, then the form that is posted says each constraint under its own key and has no other. Two
of them with the same form, in whatever order, are the same. -/
theorem allocation_forms_tell_apart {url : String}
    (resolves : c.client.urlFor "machines/" = .ok url) :
    (∀ a : Allocation, ¬ (Operation.allocateMachine a).Unusable →
      ((∃ form, c.Posts (.allocateMachine a) form) ↔ (Operation.allocateMachine a).IsWritable) ∧
      ∀ form, c.Posts (.allocateMachine a) form → a.IsCommaFree → a.SaidBy form) ∧
    ∀ (a b : Allocation) (form form' : Params),
      ¬ (Operation.allocateMachine a).Unusable → ¬ (Operation.allocateMachine b).Unusable →
      a.IsCommaFree → b.IsCommaFree →
      c.Posts (.allocateMachine a) form → c.Posts (.allocateMachine b) form' →
      (∀ key, form.get? key = form'.get? key) → a = b := by
  have said (a : Allocation) (usable : ¬ (Operation.allocateMachine a).Unusable) (form : Params)
      (posts : c.Posts (.allocateMachine a) form) (free : a.IsCommaFree) : a.SaidBy form := by
    obtain rfl := posts.unique (posts_allocation resolves usable posts.isWritable)
    exact a.saidBy_given free
  refine ⟨fun a usable => ⟨⟨fun ⟨_, posts⟩ => posts.isWritable, fun writable =>
    ⟨_, posts_allocation resolves usable writable⟩⟩, said a usable⟩, ?_⟩
  intro a b form form' usable usable' free free' posts posts' same
  exact (said a usable form posts free).unique (said b usable' form' posts' free') same

/-- A minimum of no CPU at all is told apart from none, two tags, one of them empty, are sent, and
a minimum that is one digit too long is not. -/
theorem allocation_forms_tell_apart_zero :
    let c : Controller := ⟨{ baseUrl := "http://maas:5240/MAAS" }, { release := [2, 0] }, .empty⟩
    let a : Allocation := { minCpuCount := some 0, tags := ["virtual", ""] }
    let b : Allocation := { tags := ["virtual", ""] }
    c.client.urlFor "machines/" = .ok "http://maas:5240/MAAS/api/2.0/machines/" ∧
      (∃ form, c.Posts (.allocateMachine a) form ∧ form.get? "cpu_count" = some (.text "0") ∧
        ∃ s, form.get? "tags" = some (.text s) ∧
          Text.split ',' s.toList = [['v', 'i', 'r', 't', 'u', 'a', 'l'], []]) ∧
      (∀ form form', c.Posts (.allocateMachine a) form → c.Posts (.allocateMachine b) form' →
        ∃ key, form.get? key ≠ form'.get? key) ∧
      ¬ ∃ form,
        c.Posts (.allocateMachine { minMemory := some (10 ^ Numeral.digitLimit) }) form := by
  intro c a b
  have resolves : c.client.urlFor "machines/" = .ok "http://maas:5240/MAAS/api/2.0/machines/" := by
    cbv
  have usable : ¬ (Operation.allocateMachine a).Unusable := by simp [Operation.Unusable, a]
  have usable' : ¬ (Operation.allocateMachine b).Unusable := by simp [Operation.Unusable, b]
  have free : a.IsCommaFree := by decide
  have free' : b.IsCommaFree := by decide
  obtain ⟨sends, tells⟩ := c.allocation_forms_tell_apart resolves
  refine ⟨resolves, ?_, fun form form' posts posts' => ?_, fun posted => ?_⟩
  · have writable : (Operation.allocateMachine a).IsWritable := by
      unfold Operation.IsWritable
      decide
    obtain ⟨form, posts⟩ := (sends a usable).1.2 writable
    have said := (sends a usable).2 form posts free
    exact ⟨form, posts, said.minCpuCount, said.tags.given (by decide)⟩
  · by_contra same
    push Not at same
    exact absurd (tells a b form form' usable usable' free free' posts posts' same) (by decide)
  · have writable := (sends _ (by simp [Operation.Unusable])).1.1 posted
    exact Numeral.not_isWritable_pow (writable _ (List.mem_singleton.2 rfl))

end Controller
end BareMetal
