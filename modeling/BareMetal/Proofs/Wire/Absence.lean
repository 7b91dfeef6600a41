/-
# Absence and null

A field that a map lacks is read in one of three ways (`Kind.absence`).

| default of the field | absence | null |
| --- | --- | --- |
| none | as null | as the shape takes it |
| null, and the settings of an interface | as the default | as the default |
| any other | as the default | a mismatch |

So absence and null are the same for the fields of the first two rows, whatever else is in the
map. For one of the third row absence makes the attribute of the entity what
`Kind.ownDefaults` says, and null is rejected.
-/

import BareMetal.Proofs.Collections
import BareMetal.Proofs.Reader.Fields
import BareMetal.Proofs.Wire.RoundTrip

namespace BareMetal

variable {es fs : Entries Datum}

/-- The field has no default other than null. -/
def Field.IsNullByDefault (f : Field) : Prop := ∀ c ∈ f.default, f.shape.write c = .null

namespace Schema

/-- The row has the default of every field that the map lacks. -/
def DefaultsIn (es : Entries Datum) : (s : Schema) → s.Row → Prop
  | [], _ => True
  | f :: fs, (c, row) =>
    (es.get? f.name = none → ∀ d ∈ f.default, c = d) ∧ DefaultsIn es fs row

/-- A row that was read has the default of every field that the map lacks. -/
theorem defaultsIn_of_readEntries {s : Schema} {row : s.Row} (h : s.readEntries es = .ok row) :
    s.DefaultsIn es row := by
  induction s with
  | nil => trivial
  | cons f s ih =>
    obtain ⟨c, row⟩ := row
    rw [readEntries] at h
    split at h
    · cases h
    · next d hd =>
      obtain ⟨row', hrow, hpair⟩ := map_eq_ok_iff.1 h
      obtain ⟨rfl, rfl⟩ := Prod.mk.inj hpair
      refine ⟨fun absent d' default => ?_, ih hrow⟩
      rw [f.read_absent_of_default absent default] at hd
      exact (Except.ok.inj hd).symm

end Schema

/-- Of no items no entities are read. -/
theorem Reader.eq_nil_of_readInnerList_nil {α : Type} {r : Reader α} {v : Version} {xs : List α}
    (h : r.readInnerList v [] = .ok xs) : xs = [] := by
  rw [readInnerList, readList, readListAt_list] at h
  obtain ⟨_, -, h⟩ := bind_eq_ok_iff.1 h
  obtain ⟨_, -, h⟩ := bind_eq_ok_iff.1 h
  cases h
  rfl

/-- The path of a single field is shown as its name, unless that begins with a point. -/
theorem pathText_name {name : String} (proper : name.toList.head? ≠ some '.') :
    pathText [.name name] = name.toList ++ [':', ' '] := by
  have start : ('.' :: name.toList).dropWhile (· = '.') = name.toList := by
    cases h : name.toList with
    | nil => rfl
    | cons c cs =>
      have other : c ≠ '.' := fun hc => proper (by rw [h, hc, List.head?_cons])
      simp [other]
  simp only [pathText, List.flatMap_cons, List.flatMap_nil, List.append_nil, Step.text, start]

/-- A field that is null is shown as nothing. -/
theorem Mismatch.message_null_field (form : Form) {name : String}
    (proper : name.toList.head? ≠ some '.') :
    message ⟨form, .null, [.name name]⟩ = s!"{name}: expected {form.name}, got nothing" := by
  simp only [message, pathText_name proper, String.ofList_append, String.ofList_toList]
  simp [String.append_assoc, Datum.describe]
  rfl

namespace Kind

/-- The fields of a kind with a default other than null, and what the default is to an entity.
The settings of an interface are not among them. -/
def ownDefaults : (k : Kind) → List (String × (k.Carrier → Prop))
  | link => [("ip_address", fun l => l.ipAddress = "")]
  | interface => [("tags", fun i => i.tags = [])]
  | space => [("vlans", fun s => s.vlans = []), ("subnets", fun s => s.subnets = [])]
  | partition => [("tags", fun p => p.tags = [])]
  | domain =>
    [("authoritative", fun d => d.authoritative = false),
      ("resource_record_count", fun d => d.resourceRecordCount = 0)]
  | tag =>
    [("comment", fun t => t.comment = ""), ("definition", fun t => t.definition = ""),
      ("kernel_opts", fun t => t.kernelOpts = "")]
  | bootResource =>
    [("subarches", fun b => b.subarches = .empty), ("kflavor", fun b => b.kernelFlavor = "")]
  | storedFile => [("content", fun f => f.content = "")]
  | device => [("tag_names", fun d => d.tags = []), ("interface_set", fun d => d.interfaces = [])]
  | machine => [("owner_data", fun m => m.ownerData = .empty)]
  | _ => []

/-- How a field of a kind takes absence and null. -/
inductive Absence (k : Kind) : Field → Prop
  | required {name : String} {shape : Shape} : Absence k { name, shape }
  | nullable {name : String} {shape : Shape} :
      Absence k { name, shape := .nullable shape, default := some none }
  | settings (here : k = .interface) :
      Absence k { name := "params", shape := .prepared .settingsAsEmpty .text, default := some "" }
  | own {name : String} {shape : Shape} {c : shape.Carrier} {form : Form}
      (known : name ∈ k.ownDefaults.map Prod.fst) (given : shape.write c ≠ .null)
      (strict : shape.read .null = .error { expected := form, got := .null }) :
      Absence k { name, shape, default := some c }

/-- Every field of every kind takes absence and null in one of these ways. -/
theorem absence (k : Kind) : ∀ f ∈ k.schema, k.Absence f := by
  cases k
  all_goals
    simp only [schema, List.forall_mem_cons, List.not_mem_nil, false_imp_iff, implies_true,
      and_true]
    repeat' apply And.intro
  all_goals first
    | exact .required
    | exact .nullable
    | exact .settings rfl
    | exact .own (by decide) nofun rfl

/-- No name of a field starts with a point. -/
theorem proper_names (k : Kind) : ∀ f ∈ k.schema, f.name.toList.head? ≠ some '.' := by
  cases k <;> decide

/-- The settings of an interface have no default of their own. -/
theorem params_notMem_ownDefaults : "params" ∉ interface.ownDefaults.map Prod.fst := by
  decide

/-- An entity that is assembled of defaults has them. -/
theorem ownDefaults_of_assemble (k : Kind) {row : k.schema.Row} {v : Version} {x : k.Carrier}
    (held : k.schema.DefaultsIn es row) (made : k.assemble row v = .ok x) :
    ∀ e ∈ k.ownDefaults, es.get? e.1 = none → e.2 x := by
  cases k
  -- of the row only the defaults count, and of the readings inside only those of no items
  all_goals
    repeat obtain ⟨_, row⟩ := row
    simp only [schema, Schema.DefaultsIn, Option.mem_def, Option.some.injEq, forall_eq',
      reduceCtorEq, false_imp_iff, imp_true_iff, true_and, and_true] at held
    simp only [assemble, Link.ofRow, Interface.ofRow, Space.ofRow, Partition.ofRow, Device.ofRow,
      Machine.ofRow, bind_eq_ok_iff, pure_eq_ok_iff, Except.ok.injEq] at made
    simp only [ownDefaults, List.forall_mem_cons, List.not_mem_nil, false_imp_iff, imp_true_iff,
      and_true]
  case link =>
    obtain ⟨_, -, rfl⟩ := made
    exact held.2
  case interface =>
    obtain ⟨_, -, _, -, rfl⟩ := made
    exact held.1
  case space =>
    obtain ⟨_, vlans, _, subnets, rfl⟩ := made
    refine ⟨fun absent => ?_, fun absent => ?_⟩
    · rw [held.2.1 absent] at vlans
      exact Reader.eq_nil_of_readInnerList_nil vlans
    · rw [held.2.2 absent] at subnets
      exact Reader.eq_nil_of_readInnerList_nil subnets
  case partition =>
    obtain ⟨_, -, rfl⟩ := made
    exact held.1
  case domain =>
    subst made
    exact held.2
  case tag =>
    subst made
    exact held
  case bootResource =>
    subst made
    refine ⟨fun absent => ?_, held.2⟩
    rw [BootResource.ofRow, held.1 absent]
    rfl
  case storedFile =>
    subst made
    exact held
  case device =>
    obtain ⟨_, interfaces, _, -, rfl⟩ := made
    refine ⟨held.2.2.1, fun absent => ?_⟩
    rw [held.2.2.2 absent] at interfaces
    exact Reader.eq_nil_of_readInnerList_nil interfaces
  case machine =>
    obtain ⟨_, -, _, -, _, -, _, -, _, -, _, -, rfl⟩ := made
    exact fun absent => congrArg NameMap.ofEntries (held.1 absent)

/-- The field has no default other than null, or it is the settings of an interface. -/
def IsLenient (k : Kind) (f : Field) : Prop :=
  f.IsNullByDefault ∨ k = .interface ∧ f.name = "params"

variable {k : Kind} {f : Field}

/-- A field with no default other than null, or the settings of an interface, reads absence
and null alike. -/
theorem Absence.read_eq (h : k.Absence f) (lenient : k.IsLenient f)
    (absent : es.get? f.name = none) (null : fs.get? f.name = some .null) :
    f.read es = f.read fs := by
  rw [f.read_present null]
  cases h with
  | required => exact Field.read_absent_of_no_default absent rfl
  | nullable => exact Field.read_absent_of_default absent rfl
  | settings => exact Field.read_absent_of_default absent rfl
  | own known given =>
    rcases lenient with null | ⟨rfl, rfl⟩
    · exact absurd (null _ rfl) given
    · exact absurd known params_notMem_ownDefaults

/-- Any other field has a default that the entity shows, and rejects null at its own name. -/
theorem Absence.exists_of_not_isLenient (h : k.Absence f) (strict : ¬ k.IsLenient f) :
    f.name ∈ k.ownDefaults.map Prod.fst ∧
      ∃ form : Form, ∀ fs, Entries.get? f.name fs = some .null →
        f.read fs = .error { expected := form, got := .null, path := [.name f.name] } := by
  cases h with
  | required => exact absurd (.inl nofun) strict
  | nullable => exact absurd (.inl fun c hc => Option.some.inj hc ▸ rfl) strict
  | settings here => exact absurd (.inr ⟨here, rfl⟩) strict
  | @own _ _ _ form known _ rejects =>
    refine ⟨known, form, fun fs null => ?_⟩
    rw [Field.read_present null, rejects]
    rfl

/-- **Absence and null.** For a field without a default, or with null as its default, and for
the settings of an interface, taking the entry away and setting it to null have the same result,
whatever it is. For any other field, if the map is read without the entry, then the attribute of
the entity is the default of the field, and with null in the entry the map is rejected for
it. -/
theorem absent_or_null (k : Kind) (f : Field) (mem : f ∈ k.schema) (text : String)
    (es : Entries Datum) :
    (k.IsLenient f →
      k.reader.readAt (Version.ofText text) (.map (es.erase f.name)) =
        k.reader.readAt (Version.ofText text) (.map (es.put f.name .null))) ∧
    (¬ k.IsLenient f → ∀ x,
      k.reader.readAt (Version.ofText text) (.map (es.erase f.name)) = .ok x →
        (∃ e ∈ k.ownDefaults, e.1 = f.name ∧ e.2 x) ∧
        ∃ m : Mismatch,
          k.reader.readAt (Version.ofText text) (.map (es.put f.name .null)) =
            .error (Reader.schemaFailure k.reader.kind "2.0" m) ∧
          m.message = s!"{f.name}: expected {m.expected.name}, got nothing") := by
  have absent : (es.erase f.name).get? f.name = none := Entries.get?_erase_self es f.name
  have null : (es.put f.name .null).get? f.name = some .null := Entries.get?_put_self ..
  have others (g : Field) (h : g.name ≠ f.name) :
      g.read (es.put f.name .null) = g.read (es.erase f.name) := by
    refine Field.read_congr ?_
    rw [Entries.get?_put_of_ne es .null h.symm, Entries.get?_erase_of_ne es h.symm]
  have distinct := k.nodup_names
  constructor
  · intro lenient
    refine k.readsAlike_of_readEntries (Schema.readEntries_congr fun g hg => ?_) _
    by_cases h : g.name = f.name
    · obtain rfl := List.inj_on_of_nodup_map distinct hg mem h
      exact (k.absence g mem).read_eq lenient absent null
    · exact (others g h).symm
  · intro strict x hx
    obtain ⟨v, parses, recent⟩ := recent_of_readAt_eq_ok hx
    rw [parses] at hx ⊢
    obtain ⟨_, ⟨⟩, row, before, made⟩ := (readAt_eq_ok_iff recent).1 hx
    obtain ⟨known, form, rejects⟩ := (k.absence f mem).exists_of_not_isLenient strict
    refine ⟨?_, { expected := form, got := .null, path := [.name f.name] }, ?_, ?_⟩
    · obtain ⟨e, he, hname⟩ := List.mem_map.1 known
      have default := k.ownDefaults_of_assemble (Schema.defaultsIn_of_readEntries before) made e he
      exact ⟨e, he, hname, default (hname ▸ absent)⟩
    · have after := Schema.readEntries_eq_error_of_field distinct before mem (rejects _ null)
        fun g _ => others g
      refine (readInner_eq recent k _).trans ?_
      rw [decode, Reader.check, after]
      rfl
    · exact Mismatch.message_null_field form (k.proper_names f mem)

/-- A link without an address, one whose address is null, and links with and without a
subnet. -/
theorem absent_or_null_link :
    let address : Field := { name := "ip_address", shape := .text, default := some "" }
    let subnet : Field := { name := "subnet", shape := .nullable .object, default := some none }
    let es : Entries Datum :=
      [("id", .int 7), ("ip_address", .text "10.0.0.1"), ("mode", .text "auto")]
    let read (es : Entries Datum) := Link.reader.readAt (Version.ofText "2.1") (.map es)
    (address ∈ link.schema ∧ ¬ link.IsLenient address ∧
      (∃ x, read (es.erase "ip_address") = .ok x ∧ x.ipAddress = "") ∧
      ∃ m, read (es.put "ip_address" .null) = .error (Reader.schemaFailure "link" "2.0" m) ∧
        m.message = s!"ip_address: expected {m.expected.name}, got nothing") ∧
    subnet ∈ link.schema ∧ link.IsLenient subnet ∧
      read (es.erase "subnet") = read (es.put "subnet" .null) := by
  intro address subnet es read
  have hasAddress : address ∈ link.schema := by simp [address, schema]
  have hasSubnet : subnet ∈ link.schema := by simp [subnet, schema]
  have strict : ¬ link.IsLenient address := by
    rintro (null | ⟨⟨⟩, -⟩)
    exact nomatch null "" rfl
  have lenient : link.IsLenient subnet := .inl fun c hc => Option.some.inj hc ▸ rfl
  have unconfigured : read (es.erase "ip_address") = .ok { id := 7, mode := "auto" } := by
    have parses : Version.ofText "2.1" = .ok { release := [2, 1] } := rfl
    change Link.reader.readAt (Version.ofText "2.1") _ = _
    rw [parses]
    exact (readAt_eq_ok_iff (k := link) (by decide)).2
      ⟨_, rfl, (7, "auto", none, "", ()), rfl, rfl⟩
  obtain ⟨⟨e, he, -, default⟩, rejected⟩ :=
    (link.absent_or_null address hasAddress "2.1" es).2 strict _ unconfigured
  obtain rfl := List.mem_singleton.1 he
  exact ⟨⟨hasAddress, strict, ⟨_, unconfigured, default⟩, rejected⟩, hasSubnet, lenient,
    (link.absent_or_null subnet hasSubnet "2.1" es).1 lenient⟩

end Kind
end BareMetal
