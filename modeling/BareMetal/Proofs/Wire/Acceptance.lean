/-
# A reader takes exactly what the grammar describes

The schema of every kind reads the fields of its grammar (`Kind.schema_reads`): each
field has the name, the type and the tolerance of absence that the grammar gives it. So
the fields of a row can be read exactly if the fields of the grammar are met
(`exists_readEntries_iff`), an entity can be assembled of the row exactly if every
entity inside can be read (`Kind.exists_assemble_iff`), and an induction on the depth of
the kind leads from the entities inside to the whole (`Kind.takes_iff_conforms`).
-/

import BareMetal.Proofs.Reader.Assembly
import BareMetal.Proofs.Wire.Value

namespace BareMetal

/-- A field of a schema reads a field of the grammar. -/
structure Field.Reads (f : Field) (w : WireField) : Prop where
  name : f.name = w.name
  fits : Fits w.type f.shape
  isOptional : f.default.isSome = w.isOptional
  plain : ∀ c ∈ f.default, ∀ P, Inner P w.type f.shape c

/-- Every map that was read for an entity into a row satisfies `P`. -/
def InnerRow (P : Kind → Entries Datum → Prop) : List WireField → (s : Schema) → s.Row → Prop
  | w :: ws, f :: fs, (c, row) => Inner P w.type f.shape c ∧ InnerRow P ws fs row
  | _, _, _ => True

/-- A field without a default reads a field of the grammar that has to be there, if its
shape fits the type. -/
theorem Field.Reads.required {name : String} {shape : Shape} {type : WireType}
    (fits : Fits type shape) : Field.Reads { name, shape } (.required name type) :=
  ⟨rfl, fits, rfl, nofun⟩

/-- A field with a default that has no entity inside reads a field of the grammar that may
be missing, if its shape fits the type. -/
theorem Field.Reads.optional {name : String} {shape : Shape} {type : WireType}
    {c : shape.Carrier} (fits : Fits type shape) (plain : ∀ P, Inner P type shape c) :
    Field.Reads { name, shape, default := some c } (.optional name type) :=
  ⟨rfl, fits, rfl, fun _ h => Option.some.inj h ▸ plain⟩

/-- A field is read, with all entities inside, exactly if the entries have what the grammar
asks for there. -/
theorem Field.Reads.exists_read_iff {P : Kind → Entries Datum → Prop} {f : Field} {w : WireField}
    (reads : f.Reads w)
    (inner : ∀ k ∈ w.type.kind?, ∀ es, P k es ↔ Conforms (.entity k) (.map es))
    {es : Entries Datum} :
    (∃ c, f.read es = .ok c ∧ Inner P w.type f.shape c) ↔ w.Met es := by
  rw [Field.read, WireField.Met, reads.name]
  cases es.get? w.name with
  | some d => simp only [mapError_eq_ok_iff, reads.fits.exists_read_iff inner]
  | none =>
    cases hf : f.default with
    | some c =>
      have optional : w.isOptional := by rw [← reads.isOptional, hf]; rfl
      exact ⟨fun _ => .inl optional, fun _ => ⟨c, rfl, reads.plain c hf P⟩⟩
    | none =>
      have required : w.isOptional = false := by rw [← reads.isOptional, hf]; rfl
      simp only [mapError_eq_ok_iff, reads.fits.exists_read_iff inner, conforms_null_iff]
      simp [required]

/-- A schema reads a map, with all entities inside, exactly if each field of the grammar is
met; the induction is on the fields. -/
theorem exists_readEntries_iff {P : Kind → Entries Datum → Prop} {s : Schema}
    {ws : List WireField} (reads : List.Forall₂ Field.Reads s ws)
    (inner : ∀ w ∈ ws, ∀ k ∈ w.type.kind?, ∀ es, P k es ↔ Conforms (.entity k) (.map es))
    {es : Entries Datum} :
    (∃ row, s.readEntries es = .ok row ∧ InnerRow P ws s row) ↔ ∀ w ∈ ws, w.Met es := by
  induction reads with
  | nil => simp [Schema.readEntries, InnerRow]
  | @cons f w fs ws hf hfs ih =>
    rw [List.forall_mem_cons] at inner ⊢
    rw [← hf.exists_read_iff inner.1, ← ih inner.2, Schema.readEntries]
    cases f.read es with
    | error m => simp
    | ok c =>
      simp only [map_eq_ok_iff, exists_exists_and_eq_and, InnerRow, Except.ok.injEq,
        exists_eq_left']
      constructor
      · rintro ⟨row, hr, hc, hrow⟩
        exact ⟨hc, row, hr, hrow⟩
      · rintro ⟨hc, row, hr, hrow⟩
        exact ⟨row, hr, hc, hrow⟩

namespace Kind

/-- The schema of a kind reads the fields of the kind, one by one. -/
theorem schema_reads (k : Kind) : List.Forall₂ Field.Reads k.schema k.wireFields := by
  cases k <;>
    repeat' first
      | exact .nil
      | refine .cons (.required ?_) ?_
      | refine .cons (.optional ?_ ?_) ?_
      | constructor
      | simp [Inner]

/-- The kinds of the entities inside a kind are nested less deeply, which is what recursion
over kinds goes by. -/
theorem depth_lt_of_mem {k l : Kind} {w : WireField} (hw : w ∈ k.wireFields)
    (hl : l ∈ w.type.kind?) : l.depth < k.depth := by
  have all : ∀ w ∈ k.wireFields, ∀ l ∈ w.type.kind?, l.depth < k.depth := by
    cases k <;> decide
  exact all w hw l hl

variable {v : Version} (recent : { release := [2, 0] } ≤ v)
include recent

/-- An entity can be assembled exactly if the reader of each entity inside takes it. -/
theorem exists_assemble_iff (k : Kind) (row : k.schema.Row) :
    (∃ x, k.assemble row v = .ok x) ↔
      InnerRow (fun l es => l.reader.Takes v es) k.wireFields k.schema row := by
  have vlans : Vlan.reader.ReadsAt v := readsAt recent vlan
  have subnets : Subnet.reader.ReadsAt v := readsAt recent subnet
  have links : Link.reader.ReadsAt v := readsAt recent link
  have interfaces : Interface.reader.ReadsAt v := readsAt recent interface
  have partitions : Partition.reader.ReadsAt v := readsAt recent partition
  have blockDevices : BlockDevice.reader.ReadsAt v := readsAt recent blockDevice
  cases k
  -- both sides come down to one condition for each reading of inner entities
  all_goals
    repeat obtain ⟨c, row⟩ := row
    simp only [schema, wireFields, WireField.required, WireField.optional, InnerRow, Inner, reader,
      assemble, Subnet.ofRow, Link.ofRow, Interface.ofRow, Fabric.ofRow, Space.ofRow,
      StaticRoute.ofRow, Partition.ofRow, BlockDevice.ofRow, VolumeGroup.ofRow, Device.ofRow,
      Machine.ofRow, exists_bind_eq_ok_iff, pure_eq_ok_iff, Except.ok.injEq, exists_eq',
      exists_and_right, and_true, true_and, implies_true, Reader.exists_readInnerOptional_iff,
      Reader.exists_readInnerList_iff vlans, Reader.exists_readInnerList_iff subnets,
      Reader.exists_readInnerList_iff links, Reader.exists_readInnerList_iff interfaces,
      Reader.exists_readInnerList_iff partitions, Reader.exists_readInnerList_iff blockDevices]
  all_goals rfl

/-- A map is read as an entity exactly if it belongs to the grammar of the kind. The
induction is on the depth of the kind: the entities inside are of less deep kinds. -/
theorem takes_iff_conforms (k : Kind) (es : Entries Datum) :
    k.reader.Takes v es ↔ Conforms (.entity k) (.map es) := by
  have inner : ∀ w ∈ k.wireFields, ∀ l ∈ w.type.kind?, ∀ es,
      l.reader.Takes v es ↔ Conforms (.entity l) (.map es) :=
    fun w hw l hl es => takes_iff_conforms l es
  rw [conforms_entity_iff, ← exists_readEntries_iff k.schema_reads inner, Reader.Takes]
  simp only [Reader.readInner, Reader.read, readAt_eq_ok_iff recent, Datum.map.injEq,
    exists_eq_left', ← exists_assemble_iff recent]
  constructor
  · rintro ⟨x, row, hr, hx⟩
    exact ⟨row, hr, x, hx⟩
  · rintro ⟨row, hr, x, hx⟩
    exact ⟨x, row, hr, hx⟩
termination_by k.depth
decreasing_by exact depth_lt_of_mem hw hl

omit recent in
/-- **What the readers take.** At every version from 2.0 on, the reader of a kind takes
exactly the values that belong to the grammar of the kind; so a single entity inside,
however deep, that does not belong to the grammar of its own kind makes the whole
reading fail. -/
theorem read_succeeds_iff (k : Kind) {text : String} (parses : Version.ofText text = .ok v)
    (recent : { release := [2, 0] } ≤ v) (d : Datum) :
    ((∃ x, k.reader.readAt (Version.ofText text) d = .ok x) ↔ Conforms (.entity k) d) ∧
      ∀ l e, Within (.entity k) d l e → ¬ Conforms (.entity l) e →
        ∃ failure, k.reader.readAt (Version.ofText text) d = .error failure := by
  have takes : (∃ x, k.reader.readAt (Version.ofText text) d = .ok x) ↔
      Conforms (.entity k) d := by
    rw [parses]
    constructor
    · rintro ⟨x, hx⟩
      obtain ⟨es, rfl, h⟩ := (readAt_eq_ok_iff recent).1 hx
      exact (takes_iff_conforms recent k es).1 ⟨x, hx⟩
    · intro h
      cases h with
      | entity present missing =>
        exact (takes_iff_conforms recent k _).2 (.entity present missing)
  refine ⟨takes, fun l e within malformed => ?_⟩
  cases hr : k.reader.readAt (Version.ofText text) d with
  | error failure => exact ⟨failure, rfl⟩
  | ok x => exact absurd ((takes.1 ⟨x, hr⟩).within within) malformed

omit recent in
/-- A domain with a numeral and a word is read; a link whose subnet is on a VLAN without
any field is not. -/
theorem read_domain_and_link :
    (∃ x, Domain.reader.readAt (Version.ofText "v2.1rc1") (.map
        [("name", .text "maas"), ("id", .text " 1_2 "), ("authoritative", .text "TRUE"),
          ("resource_uri", .text "/MAAS/api/2.0/domains/12/")]) = .ok x) ∧
      ∃ failure, Link.reader.readAt (Version.ofText "v2.1rc1") (.map
        [("id", .int 7), ("mode", .text "auto"), ("subnet", .map [("vlan", .map [])])]) =
          .error failure := by
  have parses : Version.ofText "v2.1rc1" =
      .ok { release := [2, 1], pre := some (.candidate, 1) } := rfl
  refine ⟨(read_succeeds_iff domain parses (by decide) _).1.2 ?_,
    (read_succeeds_iff link parses (by decide) _).2 vlan (.map []) ?_ ?_⟩
  · have twelve : Denotes (.text " 1_2 ") 12 := .numeral (by decide)
    rw [conforms_entity_iff]
    simp [wireFields, WireField.required, WireField.optional, WireField.Met, Entries.get?]
    exact ⟨.text _, .number 12 twelve, .text _, .word (.inl (by decide))⟩
  · refine .field (f := .optional "subnet" (.orNull (.entity subnet))) (by decide) rfl ?_
    refine .value (by rintro ⟨⟩) ?_
    exact .field (f := .required "vlan" (.entity vlan)) (by decide) rfl (.itself ..)
  · rw [conforms_entity_iff]
    intro h
    have vid := h (.required "vid" .number) (by decide)
    simp [WireField.Met, Entries.get?, WireField.required, WireType.admitsNull] at vid

end Kind

end BareMetal
