/-
# Where a failure to read is found

The failure to read a value shows the way to what is wrong in it
(`Kind.read_failure_shows_place`). Its message is a row of labels and a mismatch, with a
colon after each label, and its causes take the labels away one by one.

| label | stands for |
| --- | --- |
| `kind i` | item `i` of a list of that kind, on the way |
| `kind 2.0 schema check failed` | the entity whose own fields are at fault, last |
| `kind base schema check failed` | a value that has not even the outer form, alone |

An entity that stands alone has no label on the way. The outer form of an entity inside is
part of the fields of the entity around it, and so it fails there: a failure of the outer
form is never found inside.

What is read into a row and handed to the readers of other kinds stands in the map that was
read (`SomeInnerRow.holds`), so a failure inside is followed outwards one entity after the
other, by induction on the depth of the kind.
-/

import BareMetal.Proofs.Reader.Fields
import BareMetal.Proofs.Wire.Acceptance
import Mathlib

namespace BareMetal

namespace Failure

/-- A mismatch with labels in front. -/
def labelled (labels : List String) (m : Mismatch) : String :=
  String.join (labels.map (· ++ ": ")) ++ m.message

/-- The failure shows the labels in front of the mismatch, and leads by its causes to the
mismatch alone: each of them shows one label less than the one before. -/
structure Unwinds (e : Failure) (labels : List String) (m : Mismatch) : Prop where
  kind_eq : e.kind = .deserialization
  message_eq : e.message = labelled labels m
  chain_eq : e.chain = labels.tails.map fun rest =>
    ⟨if rest.isEmpty then .mismatch m else .deserialization, labelled rest m⟩

/-- The first label stands in front, with a colon and a space behind it. -/
theorem labelled_cons (label : String) (labels : List String) (m : Mismatch) :
    labelled (label :: labels) m = s!"{label}: {labelled labels m}" := by
  simp [labelled, String.append_assoc, String.join_cons]
  rfl

/-- A mismatch in its first context has one label. -/
theorem unwinds_deserialization (context : String) (m : Mismatch) :
    (deserialization context (ofMismatch m)).Unwinds [context] m := by
  have none : labelled [] m = m.message := by simp [labelled]
  refine ⟨rfl, ?_, ?_⟩
  · rw [labelled_cons, none]
    rfl
  · simp only [List.tails, List.map_cons, List.map_nil, labelled_cons, none]
    rfl

/-- Further context is one more label in front, and the failure without it is the cause. -/
theorem Unwinds.annotate {e : Failure} {labels : List String} {m : Mismatch}
    (h : e.Unwinds labels m) (context : String) :
    (e.annotate context).Unwinds (context :: labels) m := by
  refine ⟨h.kind_eq, ?_, ?_⟩
  · rw [labelled_cons, ← h.message_eq]
    rfl
  · rw [List.tails_cons, List.map_cons, ← h.chain_eq, labelled_cons, ← h.message_eq]
    simp [Failure.annotate, caused, chain, h.kind_eq]

end Failure

/-- The kind of the entity that a value of the type is, null apart. -/
def WireType.single? : WireType → Option Kind
  | entity k => some k
  | orNull t => t.single?
  | _ => none

/-- The kind of the entities that a value of the type is a list of, null apart. -/
def WireType.items? : WireType → Option Kind
  | listOf (entity k) => some k
  | orNull t => t.items?
  | _ => none

/-- A single entity is one of the entities that a type has inside. -/
theorem WireType.mem_kind?_of_single {t : WireType} {l : Kind} (h : t.single? = some l) :
    l ∈ t.kind? := by
  induction t with
  | entity k => exact h
  | orNull t ih => exact ih h
  | _ => cases h

/-- The items of a list are among the entities that a type has inside. -/
theorem WireType.mem_kind?_of_items {t : WireType} {l : Kind} (h : t.items? = some l) :
    l ∈ t.kind? := by
  induction t with
  | listOf t =>
    cases t with
    | entity k => exact h
    | _ => cases h
  | orNull t ih => exact ih h
  | _ => cases h

/-- The value of the type is a single entity that satisfies `P`, or a list of entities that
satisfies `Q`. -/
inductive Holds (P : Kind → Entries Datum → Prop) (Q : Kind → List (Entries Datum) → Prop)
    (t : WireType) : Datum → Prop
  | single {l : Kind} {es : Entries Datum} (type : t.single? = some l) (h : P l es) :
      Holds P Q t (.map es)
  | list {l : Kind} {items : List (Entries Datum)} (type : t.items? = some l) (h : Q l items) :
      Holds P Q t (.list (items.map .map))

/-- What was read from a value of a type is, or has in it, a single entity that satisfies `P`
or a list of entities that satisfies `Q`. -/
def SomeInner (P : Kind → Entries Datum → Prop) (Q : Kind → List (Entries Datum) → Prop) :
    WireType → (s : Shape) → s.Carrier → Prop
  | .entity k, .map .any, es => P k es
  | .listOf (.entity k), .list (.map .any), items => Q k items
  | .orNull t, .nullable s, o => ∃ c ∈ o, SomeInner P Q t s c
  | .orNull t, .prepared _ s, c => SomeInner P Q t s c
  | _, _, _ => False

/-- Some field of a row does. -/
def SomeInnerRow (P : Kind → Entries Datum → Prop) (Q : Kind → List (Entries Datum) → Prop) :
    List WireField → (s : Schema) → s.Row → Prop
  | w :: ws, f :: fs, (c, row) => SomeInner P Q w.type f.shape c ∨ SomeInnerRow P Q ws fs row
  | _, _, _ => False

section Inside

variable {P : Kind → Entries Datum → Prop} {Q : Kind → List (Entries Datum) → Prop}

/-- Nothing holds of what no entity was read from, if nothing does of the empty list. -/
theorem not_someInner_of_plain (empty : ∀ k, ¬ Q k []) {t : WireType} {s : Shape}
    {c : s.Carrier} (plain : Inner (fun _ _ => False) t s c) : ¬ SomeInner P Q t s c := by
  intro h
  fun_induction SomeInner P Q t s c with
  | case1 k es => exact plain
  | case2 k items =>
    cases items with
    | nil => exact empty k h
    | cons es items => exact plain es (List.mem_cons_self ..)
  | case3 t s o ih =>
    obtain ⟨c, hc, h⟩ := h
    exact ih c (plain c hc) h
  | case4 t p s c ih => exact ih plain h
  | case5 => exact h

/-- What was read stands in the value. The value that null is taken for has no entity inside,
so that null itself drops out. -/
theorem Fits.holds {t : WireType} {s : Shape} (fits : Fits t s) (empty : ∀ k, ¬ Q k [])
    {d : Datum} {c : s.Carrier} (reads : s.read d = .ok c) (h : SomeInner P Q t s c) :
    Holds P Q t d := by
  induction fits generalizing d with
  | text | flag | number | size | flagOrWord | settings => exact h.elim
  | listOf item =>
    cases item with
    | entity k =>
      obtain rfl := Shape.read_objects_eq_ok_iff.1 reads
      exact .list rfl h
    | _ => simp [SomeInner] at h
  | mapOf => simp [SomeInner] at h
  | nullable value ih =>
    obtain ⟨c, rfl, h⟩ := h
    have given : d ≠ .null := by
      rintro rfl
      cases reads
    rw [Shape.read_nullable given] at reads
    obtain ⟨c', hc, hs⟩ := map_eq_ok_iff.1 reads
    obtain rfl := Option.some.inj hs
    cases ih hc h with
    | single type h => exact .single type h
    | list type h => exact .list type h
  | @nullAs _ _ _ c' _ stands plain ih =>
    by_cases hd : d = .null
    · subst hd
      obtain rfl : c' = c := Except.ok.inj (stands.symm.trans reads)
      exact absurd h (not_someInner_of_plain empty (plain _))
    · rw [Shape.read_nullAs hd] at reads
      cases ih reads h with
      | single type h => exact .single type h
      | list type h => exact .list type h
  | entity k =>
    obtain rfl := Shape.read_object_eq_ok_iff.1 reads
    exact .single rfl h

/-- What a field has read of an entity or a list of entities stood in the map under its
name: a default has none. -/
theorem Field.Reads.holds {f : Field} {w : WireField} (reads : f.Reads w)
    (empty : ∀ k, ¬ Q k []) {es : Entries Datum} {c : f.shape.Carrier} (hc : f.read es = .ok c)
    (h : SomeInner P Q w.type f.shape c) : ∃ d, es.get? w.name = some d ∧ Holds P Q w.type d := by
  rw [Field.read, reads.name] at hc
  cases hd : es.get? w.name with
  | some d =>
    rw [hd] at hc
    exact ⟨d, rfl, reads.fits.holds empty (mapError_eq_ok_iff.1 hc) h⟩
  | none =>
    rw [hd] at hc
    cases hdefault : f.default with
    | some c' =>
      rw [hdefault] at hc
      obtain rfl := Except.ok.inj hc
      exact absurd h (not_someInner_of_plain empty (reads.plain c' hdefault _))
    | none =>
      rw [hdefault] at hc
      cases reads.fits.holds empty (mapError_eq_ok_iff.1 hc) h

/-- What a row has read of an entity or a list of entities stood in the map under the name
of one of its fields. -/
theorem SomeInnerRow.holds {s : Schema} {ws : List WireField}
    (fields : List.Forall₂ Field.Reads s ws) (empty : ∀ k, ¬ Q k []) {es : Entries Datum}
    {row : s.Row} (reads : s.readEntries es = .ok row) (h : SomeInnerRow P Q ws s row) :
    ∃ w ∈ ws, ∃ d, es.get? w.name = some d ∧ Holds P Q w.type d := by
  induction fields with
  | nil => exact h.elim
  | @cons f w fs ws hf hfs ih =>
    obtain ⟨c, row⟩ := row
    rw [Schema.readEntries] at reads
    cases hc : f.read es with
    | error m =>
      rw [hc] at reads
      cases reads
    | ok c' =>
      rw [hc] at reads
      obtain ⟨row', hrow, heq⟩ := map_eq_ok_iff.1 reads
      cases heq
      rcases h with h | h
      · exact ⟨w, List.mem_cons_self .., hf.holds empty hc h⟩
      · obtain ⟨w', hw', rest⟩ := ih hrow h
        exact ⟨w', List.mem_cons_of_mem _ hw', rest⟩

end Inside

/-- Fields that cannot be read fail at one of them, and the path of the mismatch begins there. -/
theorem exists_of_readEntries_eq_error {s : Schema} {ws : List WireField}
    (fields : List.Forall₂ Field.Reads s ws) {es : Entries Datum} {m : Mismatch}
    (h : s.readEntries es = .error m) : ∃ w ∈ ws, ∃ path, m.path = .name w.name :: path := by
  induction fields with
  | nil => cases h
  | @cons f w fs ws hf hfs ih =>
    rw [Schema.readEntries] at h
    cases hc : f.read es with
    | error m' =>
      rw [hc] at h
      cases h
      refine ⟨w, List.mem_cons_self .., ?_⟩
      rw [Field.read, hf.name] at hc
      split at hc
      · obtain ⟨m', -, rfl⟩ := mapError_eq_error_iff.1 hc
        exact ⟨m'.path, rfl⟩
      · cases hc
      · obtain ⟨m', -, rfl⟩ := mapError_eq_error_iff.1 hc
        exact ⟨m'.path, rfl⟩
    | ok c =>
      rw [hc] at h
      cases hrow : Schema.readEntries fs es with
      | error m' =>
        rw [hrow] at h
        cases h
        obtain ⟨w', hw', path⟩ := ih hrow
        exact ⟨w', List.mem_cons_of_mem _ hw', path⟩
      | ok row =>
        rw [hrow] at h
        cases h

namespace Reader

variable {α : Type} {r : Reader α} {v : Version}

/-- An entity that may be missing fails exactly if it is there and fails. -/
theorem readInnerOptional_eq_error_iff {o : Option (Entries Datum)} {e : Failure} :
    r.readInnerOptional v o = .error e ↔ ∃ es ∈ o, r.readInner v es = .error e := by
  cases o with
  | none => simp [readInnerOptional]
  | some es => cases h : r.readInner v es <;> simp [readInnerOptional, h, Except.map]

/-- A list that cannot be decoded has an item that cannot, and fails as that item does. -/
theorem exists_of_decodeItems_eq_error {kind : String} {decode : Decoder α} {n : Nat}
    {items : List (Entries Datum)} {e : Failure}
    (h : decodeItems kind decode v n items = .error e) :
    ∃ (i : Nat) (es : Entries Datum) (e' : Failure),
      items[i]? = some es ∧ decode es v = .error e' ∧ e = e'.annotate s!"{kind} {n + i}" := by
  induction items generalizing n with
  | nil => cases h
  | cons es items ih =>
    rw [decodeItems] at h
    cases hd : decode es v with
    | error e' =>
      rw [hd] at h
      cases h
      exact ⟨0, es, e', rfl, hd, rfl⟩
    | ok x =>
      rw [hd] at h
      cases hrest : decodeItems kind decode v (n + 1) items with
      | ok xs =>
        rw [hrest] at h
        cases h
      | error e' =>
        rw [hrest] at h
        cases h
        obtain ⟨i, es', e'', hes', he'', rfl⟩ := ih hrest
        exact ⟨i + 1, es', e'', hes', he'', by rw [Nat.add_assoc, Nat.add_comm 1]⟩

/-- Where the version has a decoder, a list of maps that is not read fails as one of its items
does, with the place of the item in front. -/
theorem exists_of_readListAt_eq_error (reads : r.ReadsAt v) {items : List (Entries Datum)}
    {e : Failure} (h : r.readListAt (.ok v) (.list (items.map .map)) = .error e) :
    ∃ (i : Nat) (es : Entries Datum) (e' : Failure),
      items[i]? = some es ∧ r.readInner v es = .error e' ∧ e = e'.annotate s!"{r.kind} {i}" := by
  obtain ⟨decode, resolves⟩ : ∃ decode, (.ok v >>= r.registry.resolve) = .ok decode := reads
  obtain ⟨u, single, several⟩ := exists_decoder resolves
  rw [several] at h
  obtain ⟨i, es, e', hes, he', rfl⟩ := exists_of_decodeItems_eq_error h
  exact ⟨i, es, e', hes, (single es).trans he', by rw [Nat.zero_add]⟩

end Reader

namespace Kind

/-- In the entries of an entity, the trail leads to those of an entity inside. It has the kind
and the index for each list on the way, and nothing for an entity that stands alone. -/
inductive Leads : Kind → Entries Datum → List (Kind × Nat) → Kind → Entries Datum → Prop
  | here (k : Kind) (es : Entries Datum) : Leads k es [] k es
  | single {k l q : Kind} {es inner fault : Entries Datum} {trail : List (Kind × Nat)}
      {w : WireField} (mem : w ∈ k.wireFields) (type : w.type.single? = some l)
      (found : es.get? w.name = some (.map inner)) (rest : Leads l inner trail q fault) :
      Leads k es trail q fault
  | item {k l q : Kind} {es inner fault : Entries Datum} {trail : List (Kind × Nat)}
      {w : WireField} {ds : List Datum} {i : Nat} (mem : w ∈ k.wireFields)
      (type : w.type.items? = some l) (found : es.get? w.name = some (.list ds))
      (place : ds[i]? = some (.map inner)) (rest : Leads l inner trail q fault) :
      Leads k es ((l, i) :: trail) q fault

/-- The labels for a trail that leads to an entity of the kind `q`, whose own fields are at
fault. -/
def labels (trail : List (Kind × Nat)) (q : Kind) : List String :=
  trail.map (fun step => s!"{step.1.reader.kind} {step.2}") ++
    [s!"{q.reader.kind} 2.0 schema check failed"]

/-- A mismatch in the schema of a kind has the label of the kind and its version. -/
theorem unwinds_schemaFailure (k : Kind) (m : Mismatch) :
    (Reader.schemaFailure k.reader.kind "2.0" m).Unwinds (labels [] k) m := by
  have label : s!"{k.reader.kind} 2.0 schema check failed" =
      let version := "2.0"
      s!"{k.reader.kind} {version} schema check failed" := by
    simp only [String.append_assoc]
    rfl
  rw [labels, label]
  exact Failure.unwinds_deserialization _ m

/-- The failure is about the own fields of the entity that the trail leads to, in the entries
of an entity; what is on the trail before is in front. -/
inductive ShowsFault (k : Kind) (es : Entries Datum) (front : List (Kind × Nat)) (e : Failure) :
    Prop
  | intro {trail : List (Kind × Nat)} {q : Kind} {fault : Entries Datum} {m : Mismatch}
      (leads : k.Leads es trail q fault) (wrong : q.schema.readEntries fault = .error m)
      (own : ∃ w ∈ q.wireFields, ∃ path, m.path = .name w.name :: path)
      (unwinds : e.Unwinds (labels (front ++ trail) q) m)

/-- Why a value is not read as an entity. -/
inductive ShowsPlace (k : Kind) : Datum → Failure → Prop
  | outerForm {d : Datum} {e : Failure} {m : Mismatch} (wrong : Shape.object.read d = .error m)
      (unwinds : e.Unwinds [s!"{k.reader.kind} base schema check failed"] m) : ShowsPlace k d e
  | inside {es : Entries Datum} {e : Failure} (fault : k.ShowsFault es [] e) :
      ShowsPlace k (.map es) e

/-- Why a value is not read as a list of entities. -/
inductive ShowsPlaceInList (k : Kind) : Datum → Failure → Prop
  | outerForm {d : Datum} {e : Failure} {m : Mismatch} (wrong : Shape.objects.read d = .error m)
      (unwinds : e.Unwinds [s!"{k.reader.kind} base schema check failed"] m) :
      ShowsPlaceInList k d e
  | inside {items : List (Entries Datum)} {i : Nat} {es : Entries Datum} {e : Failure}
      (place : items[i]? = some es) (fault : k.ShowsFault es [(k, i)] e) :
      ShowsPlaceInList k (.list (items.map .map)) e

variable {v : Version}

/-- An entity that cannot be assembled has an entity or a list inside that cannot be read, and
fails as that one does. -/
theorem assemble_eq_error (k : Kind) {row : k.schema.Row} {e : Failure}
    (h : k.assemble row v = .error e) :
    SomeInnerRow (fun l es => l.reader.readInner v es = .error e)
      (fun l items => l.reader.readInnerList v items = .error e) k.wireFields k.schema row := by
  cases k
  all_goals
    repeat obtain ⟨c, row⟩ := row
    simp only [assemble, Subnet.ofRow, Link.ofRow, Interface.ofRow, Fabric.ofRow, Space.ofRow,
      StaticRoute.ofRow, Partition.ofRow, BlockDevice.ofRow, VolumeGroup.ofRow, Device.ofRow,
      Machine.ofRow, bind_eq_error_iff, pure_ne_error, reduceCtorEq, and_false, exists_false,
      or_false, exists_and_right] at h
  -- the kinds without entities inside are gone; of the others the readings are left, in order
  all_goals
    simp only [schema, wireFields, WireField.required, WireField.optional, SomeInnerRow,
      SomeInner, reader, and_false, exists_false, false_or, or_false,
      ← Reader.readInnerOptional_eq_error_iff]
    tauto

variable (recent : { release := [2, 0] } ≤ v)
include recent

/-- A map that is not read as an entity has its own fields at fault, or an entity inside that is
not read. The entities inside are of less deep kinds, and a list adds its place in front. -/
theorem showsFault_of_readInner_eq_error (k : Kind) {es : Entries Datum} {e : Failure}
    (h : k.reader.readInner v es = .error e) : k.ShowsFault es [] e := by
  rw [readInner_eq recent] at h
  rcases bind_eq_error_iff.1 h with h | ⟨row, hrow, h⟩
  · obtain ⟨m, wrong, rfl⟩ := mapError_eq_error_iff.1 h
    exact .intro (.here k es) wrong (exists_of_readEntries_eq_error k.schema_reads wrong)
      (k.unwinds_schemaFailure m)
  · have empty (l : Kind) : ¬ l.reader.readInnerList v [] = .error e := by
      intro h
      obtain ⟨i, es, -, hes, -⟩ := Reader.exists_of_readListAt_eq_error (readsAt recent l) h
      cases hes
    obtain ⟨w, hw, d, found, h⟩ := (assemble_eq_error k h).holds k.schema_reads empty
      (mapError_eq_ok_iff.1 hrow)
    cases h with
    | @single l inner type h =>
      have shallower : l.depth < k.depth := depth_lt_of_mem hw (WireType.mem_kind?_of_single type)
      obtain ⟨leads, wrong, own, unwinds⟩ := showsFault_of_readInner_eq_error l h
      exact .intro (.single hw type found leads) wrong own unwinds
    | @list l items type h =>
      have shallower : l.depth < k.depth := depth_lt_of_mem hw (WireType.mem_kind?_of_items type)
      obtain ⟨i, inner, e', place, hinner, rfl⟩ :=
        Reader.exists_of_readListAt_eq_error (readsAt recent l) h
      obtain ⟨leads, wrong, own, unwinds⟩ := showsFault_of_readInner_eq_error l hinner
      exact .intro (.item hw type found (by simp [place]) leads) wrong own (unwinds.annotate _)
termination_by k.depth

/-- What is not read as an entity has not the outer form, or something inside is at fault. -/
theorem showsPlace_of_readAt_eq_error (k : Kind) {d : Datum} {e : Failure}
    (h : k.reader.readAt (.ok v) d = .error e) : k.ShowsPlace d e := by
  cases hd : Shape.object.read d with
  | error m =>
    rw [Reader.readAt, Reader.entriesOf, hd] at h
    cases h
    exact .outerForm hd (Failure.unwinds_deserialization _ m)
  | ok es =>
    obtain rfl := Shape.read_object_eq_ok_iff.1 hd
    exact .inside (showsFault_of_readInner_eq_error recent k h)

/-- What is not read as a list of entities has not the outer form, or an item is at fault, whose
place comes in front. -/
theorem showsPlaceInList_of_readListAt_eq_error (k : Kind) {d : Datum} {e : Failure}
    (h : k.reader.readListAt (.ok v) d = .error e) : k.ShowsPlaceInList d e := by
  cases hd : Shape.objects.read d with
  | error m =>
    rw [Reader.readListAt, Reader.itemsOf, hd] at h
    cases h
    exact .outerForm hd (Failure.unwinds_deserialization _ m)
  | ok items =>
    obtain rfl := Shape.read_objects_eq_ok_iff.1 hd
    obtain ⟨i, es, e', place, hes, rfl⟩ :=
      Reader.exists_of_readListAt_eq_error (readsAt recent k) h
    obtain ⟨leads, wrong, own, unwinds⟩ := showsFault_of_readInner_eq_error recent k hes
    exact .inside place (.intro leads wrong own (unwinds.annotate _))

omit recent in
/-- **A failure to read shows its place.** At every version from 2.0 on, whatever is not read as
an entity or as a list of entities fails as a value of the wrong form, never for its version.
Either the value itself has not the outer form; or the message names the lists on the way, from
the outside in, to an entity inside, its kind, and what is wrong with its own fields. The causes
take the labels off one by one, down to the mismatch. -/
theorem read_failure_shows_place (k : Kind) {text : String}
    (parses : Version.ofText text = .ok v) (recent : { release := [2, 0] } ≤ v) (d : Datum)
    (e : Failure) :
    (k.reader.readAt (Version.ofText text) d = .error e → k.ShowsPlace d e) ∧
      (k.reader.readListAt (Version.ofText text) d = .error e → k.ShowsPlaceInList d e) := by
  rw [parses]
  exact ⟨showsPlace_of_readAt_eq_error recent k, showsPlaceInList_of_readListAt_eq_error recent k⟩

omit recent in
/-- The second of two spaces has a subnet on a VLAN without fields. -/
theorem read_failure_shows_place_vlan :
    let space (subnets : List Datum) : Datum := .map [("resource_uri", .text "/"),
      ("id", .int 1), ("name", .text "a"), ("subnets", .list subnets)]
    let broken : Datum := .map [("resource_uri", .text "/"), ("id", .int 2),
      ("name", .text "b"), ("space", .text "a"), ("cidr", .text "10.0.0.0/8"), ("vlan", .map [])]
    ∃ e, Space.reader.readListAt (Version.ofText "2.3") (.list [space [], space [broken]]) =
        .error e ∧
      e.message = "space 1: subnet 0: vlan 2.0 schema check failed: " ++
        "resource_uri: expected string, got nothing" ∧
      Kind.space.ShowsPlaceInList (.list [space [], space [broken]]) e := by
  intro space broken
  have parses : Version.ofText "2.3" = .ok { release := [2, 3] } := rfl
  have fails : ∃ e, Space.reader.readListAt (Version.ofText "2.3")
      (.list [space [], space [broken]]) = .error e ∧
        e.message = "space 1: subnet 0: vlan 2.0 schema check failed: " ++
          "resource_uri: expected string, got nothing" := by
    refine ⟨(Reader.schemaFailure "vlan" "2.0" ⟨.text, .null, [.name "resource_uri"]⟩
      |>.annotate "subnet 0" |>.annotate "space 1"), by cbv, by cbv⟩
  obtain ⟨e, he, message⟩ := fails
  exact ⟨e, he, message, (Kind.space.read_failure_shows_place parses (by decide) _ e).2 he⟩

end Kind
end BareMetal
