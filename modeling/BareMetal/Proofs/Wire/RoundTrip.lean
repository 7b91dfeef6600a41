/-
# Reading undoes rendering

The entries of an entity in its plain form are those of the schema of its kind
(`Schema.Aligned`), so each field is read from the entry that was written for it, in
whatever order they come. Of what was read the entity is assembled again, since the
readers of the entities inside undo their rendering (`Kind.readInner_wire`).
-/

import BareMetal.Proofs.Collections
import BareMetal.Proofs.Reader.Assembly
import BareMetal.Proofs.Text.Names
import BareMetal.Proofs.Wire.Rendering

namespace BareMetal

variable (l : Layout)

namespace Layout

/-- The text of a value that is one. -/
def textOf : Datum → String
  | .text s => s
  | _ => ""

/-- The entries of a map of texts, in the order in which they are written. -/
def textEntries (es : Entries String) : Entries String :=
  (l.entries (es.map fun e => (e.1, .text e.2))).map fun e => (e.1, textOf e.2)

/-- Up to their order, the entries of a map of texts are written as they are. -/
theorem textEntries_perm (es : Entries String) : (l.textEntries es).Perm es := by
  have perm := (l.entries_perm (es.map fun e => (e.1, .text e.2))).map fun e => (e.1, textOf e.2)
  rwa [List.map_map, List.map_id''] at perm
  exact fun _ => rfl

end Layout

namespace Shape

/-- A list of texts is read back. -/
theorem read_texts (ss : List String) : (list text).read (.texts ss) = .ok ss := by
  rw [Datum.texts, Shape.read, readItems_eq_ok_iff, List.forall₂_map_left_iff, List.forall₂_same]
  exact fun _ _ => rfl

/-- So it is where null may stand in its place. -/
theorem read_nullable_texts (ss : List String) :
    (nullable (list text)).read (.texts ss) = .ok (some ss) := by
  have given : (nullable (list text)).read (.texts ss) =
      ((list text).read (.texts ss)).map some := rfl
  rw [given, read_texts]
  rfl

/-- The entries of an entity are read back in the order in which they are written. -/
theorem read_layout_object (es : Entries Datum) : object.read (l.object es) = .ok (l.entries es) :=
  read_object_eq_ok_iff.2 rfl

/-- The entries of several entities are read back, each in the order in which they are
written. -/
theorem read_layout_objects {α : Type} (wire : α → Entries Datum) (xs : List α) :
    objects.read (.list (xs.map fun x => l.object (wire x))) =
      .ok (xs.map fun x => l.entries (wire x)) := by
  rw [read_objects_eq_ok_iff, List.map_map]
  rfl

/-- So are the entries of an entity that may be missing. -/
theorem read_layout_orNull {α : Type} (wire : α → Entries Datum) (o : Option α) :
    (nullable object).read (.orNull (o.map fun x => l.object (wire x))) =
      .ok (o.map fun x => l.entries (wire x)) := by
  cases o with
  | none => rfl
  | some x =>
    exact map_eq_ok_iff.2 ⟨_, read_layout_object l (wire x), rfl⟩

/-- A number that may be missing is read back. -/
theorem read_orNull_int (o : Option Int) :
    (nullable number).read (.orNull (o.map .int)) = .ok o := by
  cases o <;> rfl

/-- A map of texts is read back in the order in which it is written. -/
theorem read_textMap (es : Entries String) :
    (map text).read (l.object (es.map fun e => (e.1, .text e.2))) = .ok (l.textEntries es) := by
  rw [Layout.object, Shape.read, readEntries_eq_ok_iff, Layout.textEntries,
    List.forall₂_map_right_iff, List.forall₂_same]
  intro e he
  obtain ⟨f, -, rfl⟩ := List.mem_map.1 ((l.entries_perm _).mem_iff.1 he)
  exact ⟨rfl, rfl⟩

end Shape

namespace Schema

/-- The entries are those of the schema, in its order, and the row is read from them. -/
inductive Aligned : (s : Schema) → Entries Datum → s.Row → Prop
  | nil : Aligned [] [] ()
  | cons {f : Field} {s : Schema} {d : Datum} {es : Entries Datum} {c : f.shape.Carrier}
      {row : s.Row} (reads : f.shape.read d = .ok c) (others : Aligned s es row) :
      Aligned (f :: s) ((f.name, d) :: es) (c, row)

/-- The names of the entries are those of the fields, in order. -/
theorem Aligned.names_eq {s : Schema} {es : Entries Datum} {row : s.Row}
    (h : Aligned s es row) : es.names = s.map Field.name := by
  induction h with
  | nil => rfl
  | cons reads others ih => exact congrArg (_ :: ·) ih

/-- The row is read from any map in which the entries are found, whatever its order. -/
theorem Aligned.readEntries_eq_ok {s : Schema} {es fs : Entries Datum} {row : s.Row}
    (h : Aligned s es row) (found : ∀ e ∈ es, fs.get? e.1 = some e.2) :
    s.readEntries fs = .ok row := by
  induction h with
  | nil => rfl
  | @cons f s d es c row reads others ih =>
    rw [List.forall_mem_cons] at found
    have here : f.read fs = .ok c := by
      rw [Field.read, found.1, mapError_eq_ok_iff]
      exact reads
    rw [Schema.readEntries, here, ih found.2]
    rfl

end Schema

namespace Reader

variable {α : Type} {r : Reader α} {v : Version} {wire : α → Entries Datum}

/-- If every entity is read back, then so is one that may be missing. -/
theorem readInnerOptional_map (undoes : ∀ x, r.readInner v (wire x) = .ok x) (o : Option α) :
    r.readInnerOptional v (o.map wire) = .ok o := by
  cases o with
  | none => rfl
  | some x => rw [Option.map_some, readInnerOptional, undoes]; rfl

/-- If every entity is read back, then so is a list of them. -/
theorem readInnerList_map (undoes : ∀ x, r.readInner v (wire x) = .ok x) (reads : r.ReadsAt v)
    (xs : List α) : r.readInnerList v (xs.map wire) = .ok xs := by
  rw [readInnerList_eq_ok_iff reads, List.forall₂_map_left_iff, List.forall₂_same]
  exact fun x _ => undoes x

end Reader

namespace Kind

/-- No kind has two fields of one name. -/
theorem nodup_names (k : Kind) : (k.schema.map Field.name).Nodup := by
  cases k <;> decide

variable {v : Version} (recent : { release := [2, 0] } ≤ v)
include recent

/-- An entity is read back if its entries are read as a row from which it is assembled, in
whatever layout they are written. -/
theorem readInner_of_aligned {k : Kind} {x : k.Carrier} {es : Entries Datum} {row : k.schema.Row}
    (aligned : Schema.Aligned k.schema es row) (made : k.assemble row v = .ok x) :
    k.reader.readInner v (l.entries es) = .ok x := by
  have distinct : es.names.Nodup := aligned.names_eq ▸ k.nodup_names
  have found (e) (he : e ∈ es) : Entries.get? e.1 (l.entries es) = some e.2 :=
    Entries.get?_of_perm (l.entries_perm es) distinct he
  exact (readAt_eq_ok_iff recent).2 ⟨_, rfl, row, aligned.readEntries_eq_ok found, made⟩

/-- The sub-architectures of a boot resource can stand in a list. -/
def Plain : (k : Kind) → k.Carrier → Prop
  | bootResource, b => ∀ n ∈ b.subarches, BootResource.IsListable n
  | _, _ => True

/-- What a kind writes for an entity, its reader reads again. The induction is on the
depth of the kind: the entities inside are of less deep kinds. -/
theorem readInner_wire (k : Kind) (x : k.Carrier) (plain : k.Plain x) :
    k.reader.readInner v (l.entries (k.wire l x)) = .ok x := by
  have vlans (less : vlan.depth < k.depth) (y : Vlan) :
      Vlan.reader.readInner v (l.entries y.wire) = .ok y :=
    readInner_wire vlan y trivial
  have subnets (less : subnet.depth < k.depth) (y : Subnet) :
      Subnet.reader.readInner v (l.entries (y.wire l)) = .ok y :=
    readInner_wire subnet y trivial
  have links (less : link.depth < k.depth) (y : Link) :
      Link.reader.readInner v (l.entries (y.wire l)) = .ok y :=
    readInner_wire link y trivial
  have interfaces (less : interface.depth < k.depth) (y : Interface) :
      Interface.reader.readInner v (l.entries (y.wire l)) = .ok y :=
    readInner_wire interface y trivial
  have fileSystems (less : fileSystem.depth < k.depth) (y : FileSystem) :
      FileSystem.reader.readInner v (l.entries y.wire) = .ok y :=
    readInner_wire fileSystem y trivial
  have partitions (less : partition.depth < k.depth) (y : Partition) :
      Partition.reader.readInner v (l.entries (y.wire l)) = .ok y :=
    readInner_wire partition y trivial
  have blockDevices (less : blockDevice.depth < k.depth) (y : BlockDevice) :
      BlockDevice.reader.readInner v (l.entries (y.wire l)) = .ok y :=
    readInner_wire blockDevice y trivial
  have zones (less : zone.depth < k.depth) (y : Zone) :
      Zone.reader.readInner v (l.entries y.wire) = .ok y :=
    readInner_wire zone y trivial
  have pools (less : pool.depth < k.depth) (y : Pool) :
      Pool.reader.readInner v (l.entries y.wire) = .ok y :=
    readInner_wire pool y trivial
  cases k
  all_goals apply readInner_of_aligned l recent
  -- every entry is read at its field; what is left is to assemble what was read
  all_goals try
    repeat' first
      | exact .nil
      | apply Schema.Aligned.cons
      | exact Shape.read_texts _
      | exact Shape.read_nullable_texts _
      | exact Shape.read_layout_object l _
      | exact Shape.read_layout_objects l _ _
      | exact Shape.read_layout_orNull l _ _
      | exact Shape.read_orNull_int _
      | exact Shape.read_textMap l _
      | rfl
  case subnet.made =>
    simp only [assemble, Subnet.ofRow, vlans (by decide)]
    rfl
  case link.made =>
    simp only [assemble, Link.ofRow, Reader.readInnerOptional_map (subnets (by decide))]
    rfl
  case interface.made =>
    simp only [assemble, Interface.ofRow, Reader.readInnerOptional_map (vlans (by decide)),
      Reader.readInnerList_map (links (by decide)) (readsAt recent link)]
    rfl
  case fabric.made =>
    simp only [assemble, Fabric.ofRow,
      Reader.readInnerList_map (vlans (by decide)) (readsAt recent vlan)]
    rfl
  case space.made =>
    simp only [assemble, Space.ofRow,
      Reader.readInnerList_map (vlans (by decide)) (readsAt recent vlan),
      Reader.readInnerList_map (subnets (by decide)) (readsAt recent subnet)]
    rfl
  case staticRoute.made =>
    simp only [assemble, StaticRoute.ofRow, subnets (by decide)]
    rfl
  case partition.made =>
    simp only [assemble, Partition.ofRow, Reader.readInnerOptional_map (fileSystems (by decide))]
    rfl
  case blockDevice.made =>
    simp only [assemble, BlockDevice.ofRow, Reader.readInnerOptional_map (fileSystems (by decide)),
      Reader.readInnerList_map (partitions (by decide)) (readsAt recent partition)]
    rfl
  case volumeGroup.made =>
    simp only [assemble, VolumeGroup.ofRow,
      Reader.readInnerList_map (blockDevices (by decide)) (readsAt recent blockDevice)]
    rfl
  case device.made =>
    simp only [assemble, Device.ofRow,
      Reader.readInnerList_map (interfaces (by decide)) (readsAt recent interface),
      zones (by decide)]
    rfl
  case machine.made =>
    simp only [assemble, Machine.ofRow, Reader.readInnerOptional_map (interfaces (by decide)),
      Reader.readInnerList_map (interfaces (by decide)) (readsAt recent interface),
      zones (by decide), Reader.readInnerOptional_map (pools (by decide)),
      Reader.readInnerList_map (blockDevices (by decide)) (readsAt recent blockDevice),
      NameMap.ofEntries_of_perm _ (l.textEntries_perm _)]
    rfl
  case bootResource.made =>
    have perm := l.names_perm x.subarches.names
    have names : NameSet.ofList (BootResource.subarchNames
        (",".intercalate (l.names x.subarches.names))) = x.subarches := by
      rw [BootResource.subarchNames_intercalate fun n hn => plain n (perm.mem_iff.1 hn)]
      exact NameSet.ofList_of_perm _ perm
    simp only [assemble, BootResource.ofRow, names]
termination_by k.depth

omit recent in
/-- **Reading undoes rendering.** At every version from 2.0 on, the reader of a kind gets
every entity back from its plain form, in whatever order maps and sets are written. -/
theorem read_rendered (k : Kind) {text : String} (parses : Version.ofText text = .ok v)
    (recent : { release := [2, 0] } ≤ v) (x : k.Carrier) (plain : k.Plain x) :
    k.reader.readAt (Version.ofText text) (k.rendered l x) = .ok x := by
  rw [parses]
  exact readInner_wire l recent k x plain

omit l recent in
/-- A boot resource with two sub-architectures, written backwards. -/
theorem read_reversed_bootResource :
    ∃ b, BootResource.reader.readAt (Version.ofText "2.4.1") (.map [
        ("kflavor", .text "generic"), ("subarches", .text "hwe-t,ga-16.04"),
        ("architecture", .text "amd64/ga-16.04"), ("type", .text "Synced"),
        ("name", .text "ubuntu/xenial"), ("id", .int 9),
        ("resource_uri", .text "/MAAS/api/2.0/boot-resources/9/")]) = .ok b ∧
      b.subarches.names = ["ga-16.04", "hwe-t"] ∧ b.kernelFlavor = "generic" := by
  let b : BootResource :=
    { resourceUri := "/MAAS/api/2.0/boot-resources/9/", id := 9, name := "ubuntu/xenial",
      type := "Synced", architecture := "amd64/ga-16.04",
      subarches := ⟨["ga-16.04", "hwe-t"], by decide⟩, kernelFlavor := "generic" }
  have parses : Version.ofText "2.4.1" = .ok { release := [2, 4, 1] } := rfl
  have plain : Plain bootResource b := by
    intro n hn
    have listed : n ∈ ["ga-16.04", "hwe-t"] := hn
    obtain rfl | rfl : n = "ga-16.04" ∨ n = "hwe-t" := by simpa using listed
    · exact ⟨by decide, by decide, by decide, by decide⟩
    · exact ⟨by decide, by decide, by decide, by decide⟩
  exact ⟨b, read_rendered .reversed bootResource parses (by decide) b plain, rfl, rfl⟩

end Kind
end BareMetal
