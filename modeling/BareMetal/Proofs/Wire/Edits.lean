/-
# What does not count in a value

What is read from a value does not depend on the entries that no schema names, nor on the
order of the entries, neither in the entity itself nor in an entity inside
(`Kind.read_ignores_edits`). An edit changes a value in such a way (`Edit`).

| edit | of |
| --- | --- |
| another order of the entries | an entity |
| a new value for a name that the schema has not, or none | an entity |
| an edit of the value of a field | an entity |
| an edit of an item | a list |

An edit is made where the grammar has an entity, and so it never changes a value that a
mismatch shows. It changes the maps that the schema hands to the readers of the entities
inside, but not what these readers make of them (`Edit.agree`).
-/

import BareMetal.Proofs.Collections
import BareMetal.Proofs.Reader.Fields
import BareMetal.Proofs.Wire.Acceptance
import Mathlib

namespace BareMetal

/-- A change that does not count to a value of a type. -/
inductive Edit : WireType → Datum → Datum → Prop
  | reorder {k : Kind} {es fs : Entries Datum} (distinct : es.names.Nodup) (perm : fs.Perm es) :
      Edit (.entity k) (.map es) (.map fs)
  | put {k : Kind} {es : Entries Datum} {name : String} (d : Datum)
      (undeclared : ∀ f ∈ k.schema, f.name ≠ name) :
      Edit (.entity k) (.map es) (.map (es.put name d))
  | erase {k : Kind} {es : Entries Datum} {name : String}
      (undeclared : ∀ f ∈ k.schema, f.name ≠ name) :
      Edit (.entity k) (.map es) (.map (es.erase name))
  | field {k : Kind} {es : Entries Datum} {w : WireField} {d e : Datum} (mem : w ∈ k.wireFields)
      (found : es.get? w.name = some d) (inner : Edit w.type d e) :
      Edit (.entity k) (.map es) (.map (es.put w.name e))
  | item {t : WireType} {before after : List Datum} {d e : Datum} (inner : Edit t d e) :
      Edit (.listOf t) (.list (before ++ d :: after)) (.list (before ++ e :: after))
  | value {t : WireType} {d e : Datum} (inner : Edit t d e) : Edit (.orNull t) d e

/-- Null is not edited, and nothing becomes null. -/
theorem Edit.ne_null {t : WireType} {d e : Datum} (edit : Edit t d e) : d ≠ .null ∧ e ≠ .null := by
  induction edit with
  | value _ ih => exact ih
  | _ => exact ⟨nofun, nofun⟩

/-- What was read from two values of a type is equal, apart from maps that were read for
entities and are related. -/
def Same (R : Kind → Entries Datum → Entries Datum → Prop) :
    WireType → (s : Shape) → s.Carrier → s.Carrier → Prop
  | .entity k, .map .any, es, fs => R k es fs
  | .listOf t, .list s, cs, cs' => List.Forall₂ (Same R t s) cs cs'
  | .orNull t, .nullable s, o, o' => Option.Rel (Same R t s) o o'
  | .orNull t, .prepared _ s, c, c' => Same R t s c c'
  | _, _, c, c' => c = c'

/-- So are the values of two rows. -/
def SameRow (R : Kind → Entries Datum → Entries Datum → Prop) :
    List WireField → (s : Schema) → s.Row → s.Row → Prop
  | w :: ws, f :: fs, (c, row), (c', row') => Same R w.type f.shape c c' ∧ SameRow R ws fs row row'
  | _, _, _, _ => True

variable {R : Kind → Entries Datum → Entries Datum → Prop}

/-- What was read is the same as itself, if every map is related to itself. -/
theorem Same.refl (hR : ∀ k es, R k es es) (t : WireType) (s : Shape) (c : s.Carrier) :
    Same R t s c c := by
  induction t generalizing s with
  | entity k =>
    cases s with
    | map value =>
      cases value with
      | any => exact hR k c
      | _ => rfl
    | _ => rfl
  | listOf t ih =>
    cases s with
    | list s => exact List.forall₂_same.2 fun c _ => ih s c
    | _ => rfl
  | orNull t ih =>
    cases s with
    | nullable s =>
      cases c with
      | none => exact .none
      | some c => exact .some (ih s c)
    | prepared p s => exact ih s c
    | _ => rfl
  | _ => rfl

/-- The items of a list are read alike if they agree one by one. -/
theorem Shape.agree_readItems {α : Type} {S : α → α → Prop} {read : Datum → Except Mismatch α}
    {ds es : List Datum} (h : List.Forall₂ (fun d e => Agree S (read d) (read e)) ds es)
    (i : Nat) : Agree (List.Forall₂ S) (readItems read i ds) (readItems read i es) := by
  induction h generalizing i with
  | nil => exact .ok .nil
  | @cons d e ds es head _ ih =>
    rw [readItems, readItems]
    generalize read d = x at head
    generalize read e = y at head
    cases head with
    | error m => exact .error _
    | ok related => exact (ih (i + 1)).map fun _ _ rest => .cons related rest

/-- Two values that may be missing are equal exactly if both are missing or both are there
and equal. -/
theorem rel_eq_iff {α : Type} {o o' : Option α} : Option.Rel (fun a b => a = b) o o' ↔ o = o' := by
  constructor
  · rintro (⟨rfl⟩ | _) <;> rfl
  · rintro rfl
    cases o with
    | none => exact .none
    | some a => exact .some rfl

namespace Kind

/-- An entity is assembled alike of two rows if the entities inside are read alike. -/
theorem assemble_eq_of_sameRow (k : Kind) {row row' : k.schema.Row}
    (h : SameRow (fun l => l.reader.ReadsAlike) k.wireFields k.schema row row') (v : Version) :
    k.assemble row v = k.assemble row' v := by
  cases k
  all_goals
    repeat obtain ⟨_, row⟩ := row
    repeat obtain ⟨_, row'⟩ := row'
    simp only [wireFields, schema, WireField.required, WireField.optional, SameRow, Same, reader,
      List.forall₂_eq_eq_eq, rel_eq_iff] at h
  case subnet =>
    obtain ⟨rfl, rfl, rfl, rfl, rfl, rfl, vlan, rfl, -⟩ := h
    simp only [assemble, Subnet.ofRow, vlan.single]
  case link =>
    obtain ⟨rfl, rfl, subnet, rfl, -⟩ := h
    simp only [assemble, Link.ofRow, Reader.ReadsAlike.optional subnet]
  case interface =>
    obtain ⟨rfl, rfl, rfl, rfl, rfl, rfl, vlan, links, rfl, rfl, rfl, rfl, rfl, -⟩ := h
    simp only [assemble, Interface.ofRow, Reader.ReadsAlike.optional vlan,
      Reader.ReadsAlike.several links]
  case fabric =>
    obtain ⟨rfl, rfl, rfl, rfl, vlans, -⟩ := h
    simp only [assemble, Fabric.ofRow, Reader.ReadsAlike.several vlans]
  case space =>
    obtain ⟨rfl, rfl, rfl, rfl, vlans, subnets, -⟩ := h
    simp only [assemble, Space.ofRow, Reader.ReadsAlike.several vlans,
      Reader.ReadsAlike.several subnets]
  case staticRoute =>
    obtain ⟨rfl, rfl, source, destination, rfl, rfl, -⟩ := h
    simp only [assemble, StaticRoute.ofRow, source.single, destination.single]
  case partition =>
    obtain ⟨rfl, rfl, rfl, rfl, rfl, rfl, rfl, filesystem, -⟩ := h
    simp only [assemble, Partition.ofRow, Reader.ReadsAlike.optional filesystem]
  case blockDevice =>
    obtain ⟨rfl, rfl, rfl, rfl, rfl, rfl, rfl, rfl, rfl, rfl, rfl, rfl, filesystem, partitions,
      -⟩ := h
    simp only [assemble, BlockDevice.ofRow, Reader.ReadsAlike.optional filesystem,
      Reader.ReadsAlike.several partitions]
  case volumeGroup =>
    obtain ⟨rfl, rfl, rfl, rfl, rfl, devices, -⟩ := h
    simp only [assemble, VolumeGroup.ofRow, Reader.ReadsAlike.several devices]
  case device =>
    obtain ⟨rfl, rfl, rfl, rfl, rfl, rfl, rfl, rfl, interfaces, zone, -⟩ := h
    simp only [assemble, Device.ofRow, Reader.ReadsAlike.several interfaces, zone.single]
  case machine =>
    obtain ⟨rfl, rfl, rfl, rfl, rfl, rfl, rfl, rfl, rfl, rfl, rfl, rfl, rfl, rfl, rfl,
      bootInterface, interfaces, zone, pool, physicalBlockDevices, blockDevices, -⟩ := h
    simp only [assemble, Machine.ofRow, Reader.ReadsAlike.optional bootInterface,
      Reader.ReadsAlike.several interfaces, zone.single, Reader.ReadsAlike.optional pool,
      Reader.ReadsAlike.several physicalBlockDevices, Reader.ReadsAlike.several blockDevices]
  -- the other kinds have no entities inside, so that the rows are equal
  all_goals
    repeat obtain ⟨rfl, h⟩ := h
    rfl

/-- No two fields of a kind have the same name. -/
theorem wireField_eq_of_name (k : Kind) {w w' : WireField} (hw : w ∈ k.wireFields)
    (hw' : w' ∈ k.wireFields) (h : w.name = w'.name) : w = w' := by
  have distinct : (k.wireFields.map WireField.name).Nodup := by
    cases k <;> decide
  exact List.inj_on_of_nodup_map distinct hw hw' h

end Kind

/-- A field that is there in both maps is read alike if its values are. -/
theorem Field.Reads.agree_read {f : Field} {w : WireField} (reads : f.Reads w)
    {es fs : Entries Datum} {d e : Datum} (hes : es.get? w.name = some d)
    (hfs : fs.get? w.name = some e)
    (h : Agree (Same R w.type f.shape) (f.shape.read d) (f.shape.read e)) :
    Agree (Same R w.type f.shape) (f.read es) (f.read fs) := by
  rw [Field.read_present (reads.name ▸ hes), Field.read_present (reads.name ▸ hfs)]
  exact h.mapError _

/-- Rows agree if their fields do. -/
theorem Schema.agree_readEntries {s : Schema} {ws : List WireField}
    (fields : List.Forall₂ Field.Reads s ws) {es fs : Entries Datum}
    (h : ∀ w ∈ ws, ∀ f : Field, f.Reads w →
      Agree (Same R w.type f.shape) (f.read es) (f.read fs)) :
    Agree (SameRow R ws s) (s.readEntries es) (s.readEntries fs) := by
  induction fields with
  | nil => exact .ok trivial
  | @cons f w s ws hf _ ih =>
    rw [List.forall_mem_cons] at h
    have head := h.1 f hf
    rw [readEntries, readEntries]
    generalize f.read es = x at head
    generalize f.read fs = y at head
    cases head with
    | error m => exact .error m
    | ok related => exact (ih h.2).map fun _ _ rest => ⟨related, rest⟩

/-- Maps whose rows agree are read alike. -/
theorem Kind.readsAlike_of_agree (k : Kind) {es fs : Entries Datum}
    (h : Agree (SameRow (fun l => l.reader.ReadsAlike) k.wireFields k.schema)
      (k.schema.readEntries es) (k.schema.readEntries fs)) : k.reader.ReadsAlike es fs :=
  k.readsAlike_of_decode fun v _ =>
    (h.mapError _).bind_eq fun _ _ hrow => k.assemble_eq_of_sameRow hrow v

/-- A kind is read alike from maps that hold the same under the names of its fields. -/
theorem Kind.readsAlike_of_get? (k : Kind) {es fs : Entries Datum}
    (h : ∀ f ∈ k.schema, es.get? f.name = fs.get? f.name) : k.reader.ReadsAlike es fs :=
  k.readsAlike_of_readEntries (Schema.readEntries_congr fun f hf => Field.read_congr (h f hf))

/-- A value and its edited form are read alike: by the shape of their type, and then by the
readers of the entities inside. -/
theorem Edit.agree {t : WireType} {d e : Datum} (edit : Edit t d e) {s : Shape}
    (fits : Fits t s) :
    Agree (Same (fun l => l.reader.ReadsAlike) t s) (s.read d) (s.read e) := by
  have entity {k : Kind} {es fs : Entries Datum} (h : k.reader.ReadsAlike es fs) :
      Agree (Same (fun l => l.reader.ReadsAlike) (.entity k) .object)
        (Shape.object.read (.map es)) (Shape.object.read (.map fs)) := by
    rw [Shape.read_object_eq_ok_iff.2 rfl, Shape.read_object_eq_ok_iff.2 rfl]
    exact .ok h
  have unchanged {α : Type} {S : α → α → Prop} (hS : ∀ c, S c c) (x : Except Mismatch α) :
      Agree S x x := .of_eq hS rfl
  have same (t : WireType) (s : Shape) (c : s.Carrier) :
      Same (fun l => l.reader.ReadsAlike) t s c c := .refl (fun _ _ _ => rfl) t s c
  induction edit generalizing s with
  | reorder distinct perm =>
    cases fits
    exact entity (Kind.readsAlike_of_get? _ fun f _ =>
      (Entries.get?_eq_of_perm perm distinct f.name).symm)
  | put d undeclared =>
    cases fits
    exact entity (Kind.readsAlike_of_get? _ fun f hf =>
      (Entries.get?_put_of_ne _ d (undeclared f hf).symm).symm)
  | erase undeclared =>
    cases fits
    exact entity (Kind.readsAlike_of_get? _ fun f hf =>
      (Entries.get?_erase_of_ne _ (undeclared f hf).symm).symm)
  | @field k es w d e mem found _ ih =>
    cases fits
    refine entity (k.readsAlike_of_agree (Schema.agree_readEntries k.schema_reads ?_))
    intro w' hw' f hf
    by_cases hname : w'.name = w.name
    · obtain rfl := k.wireField_eq_of_name hw' mem hname
      exact hf.agree_read found (Entries.get?_put_self ..) (ih hf.fits)
    · have hother : f.name ≠ w.name := fun h => hname (hf.name.symm.trans h)
      rw [Field.read_congr (Entries.get?_put_of_ne es e hother.symm)]
      exact unchanged (same w'.type f.shape) _
  | @item t before after d e _ ih =>
    cases fits with
    | @listOf _ s item =>
      have rest (ds : List Datum) : List.Forall₂ (fun d e =>
          Agree (Same (fun l => l.reader.ReadsAlike) t s) (s.read d) (s.read e)) ds ds :=
        List.forall₂_same.2 fun d _ => unchanged (same t s) (s.read d)
      exact Shape.agree_readItems (List.rel_append (rest _) (.cons (ih item) (rest _))) 0
  | value inner ih =>
    obtain ⟨hd, he⟩ := inner.ne_null
    cases fits with
    | nullable value =>
      rw [Shape.read_nullable hd, Shape.read_nullable he]
      exact (ih value).map fun _ _ h => .some h
    | nullAs value _ _ =>
      rw [Shape.read_nullAs hd, Shape.read_nullAs he]
      exact ih value

namespace Kind

/-- An edit changes nothing about how an entity is read, at any version. -/
theorem readAt_eq_of_edit {k : Kind} {d e : Datum} (edit : Edit (.entity k) d e)
    (version : Except Failure Version) :
    k.reader.readAt version d = k.reader.readAt version e := by
  refine ((edit.agree (.entity k)).mapError _).bind_eq fun es fs h => ?_
  have hread := h version
  rw [Reader.readAt_map, Reader.readAt_map] at hread
  exact hread

/-- An edit changes nothing about how a list of entities is read, at any version. -/
theorem readListAt_eq_of_edit {k : Kind} {d e : Datum} (edit : Edit (.listOf (.entity k)) d e)
    (version : Except Failure Version) :
    k.reader.readListAt version d = k.reader.readListAt version e := by
  refine ((edit.agree (.listOf (.entity k))).mapError _).bind_eq fun items items' h => ?_
  have hread := Reader.readListAt_eq_of_forall₂ h version
  rw [Reader.readListAt_list, Reader.readListAt_list] at hread
  exact hread

/-- **Undeclared entries and the order of entries do not count.** However an entity is edited,
in itself or in the entities inside, and however the entities of a list are, what is read is
the same at every version, and so is every failure with its message and its causes. -/
theorem read_ignores_edits (k : Kind) (text : String) :
    (∀ d e, Relation.ReflTransGen (Edit (.entity k)) d e →
      k.reader.readAt (Version.ofText text) d = k.reader.readAt (Version.ofText text) e) ∧
    ∀ d e, Relation.ReflTransGen (Edit (.listOf (.entity k))) d e →
      k.reader.readListAt (Version.ofText text) d =
        k.reader.readListAt (Version.ofText text) e := by
  constructor
  · intro d e edits
    induction edits with
    | refl => rfl
    | tail _ edit ih => exact ih.trans (readAt_eq_of_edit edit _)
  · intro d e edits
    induction edits with
    | refl => rfl
    | tail _ edit ih => exact ih.trans (readListAt_eq_of_edit edit _)

/-- The VLAN of the subnet of the second link gets an entry, then the link another one, and
then the entries of the link are turned round. -/
theorem read_ignores_edits_links :
    let link (vlan : Entries Datum) : Entries Datum :=
      [("id", .int 7), ("mode", .text "auto"), ("subnet", .map [("vlan", .map vlan)])]
    let extended : Entries Datum :=
      link [("vid", .int 5), ("space", .text "a")] ++ [("subnets", Datum.null)]
    let first : Datum := .map [("id", .int 6), ("mode", .text "auto")]
    let before : Datum := .list [first, .map (link [("vid", .int 5)])]
    let after : Datum := .list [first, .map extended.reverse]
    Relation.ReflTransGen (Edit (.listOf (.entity Kind.link))) before after ∧
      Link.reader.readListAt (Version.ofText "2.1") before =
        Link.reader.readListAt (Version.ofText "2.1") after := by
  intro link extended first before after
  have second {es fs : Entries Datum} (edit : Edit (.entity Kind.link) (.map es) (.map fs)) :
      Edit (.listOf (.entity Kind.link)) (.list [first, .map es]) (.list [first, .map fs]) :=
    @Edit.item _ [first] [] _ _ edit
  have vlan : Edit (.entity Kind.vlan) (.map [("vid", .int 5)])
      (.map [("vid", .int 5), ("space", .text "a")]) :=
    @Edit.put Kind.vlan _ "space" (.text "a") (by decide)
  have subnet : Edit (.entity Kind.subnet) (.map [("vlan", .map [("vid", .int 5)])])
      (.map [("vlan", .map [("vid", .int 5), ("space", .text "a")])]) :=
    @Edit.field Kind.subnet _ (.required "vlan" (.entity Kind.vlan)) _ _ (by decide) rfl vlan
  have inner : Edit (.entity Kind.link) (.map (link [("vid", .int 5)]))
      (.map (link [("vid", .int 5), ("space", .text "a")])) :=
    @Edit.field Kind.link _ (.optional "subnet" (.orNull (.entity Kind.subnet))) _ _ (by decide)
      rfl (.value subnet)
  have entry : Edit (.entity Kind.link) (.map (link [("vid", .int 5), ("space", .text "a")]))
      (.map extended) :=
    @Edit.put Kind.link _ "subnets" .null (by decide)
  have turned : Edit (.entity Kind.link) (.map extended) (.map extended.reverse) :=
    .reorder (by decide) extended.reverse_perm
  have edits : Relation.ReflTransGen (Edit (.listOf (.entity Kind.link))) before after :=
    ((Relation.ReflTransGen.single (second inner)).tail (second entry)).tail (second turned)
  exact ⟨edits, (Kind.link.read_ignores_edits "2.1").2 before after edits⟩

end Kind
end BareMetal
