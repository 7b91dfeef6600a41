/-
# When a reader succeeds

A reader made of one schema reads at every version from 2.0 on. There it takes
exactly the maps that its schema takes and that an entity can be made of
(`Reader.readAt_ofSchema_eq_ok_iff`). Inside an entity, a reader takes an absent
entity as nothing, and a list exactly if it takes each of its items.
-/

import BareMetal.Reader
import BareMetal.Proofs.Except
import BareMetal.Proofs.Registry.Invariant
import Mathlib.Data.List.Forall2

namespace BareMetal

/-- A list can be related item by item exactly if each of its items can. -/
theorem exists_forall₂_iff {α β : Type} {R : α → β → Prop} {Q : β → Prop} {xs : List α} :
    (∃ ys, List.Forall₂ R xs ys ∧ ∀ y ∈ ys, Q y) ↔ ∀ x ∈ xs, ∃ y, R x y ∧ Q y := by
  induction xs with
  | nil => simp
  | cons x xs ih =>
    rw [List.forall_mem_cons, ← ih]
    constructor
    · rintro ⟨_, ⟨⟩ | ⟨hR, hRs⟩, hQ⟩
      rw [List.forall_mem_cons] at hQ
      exact ⟨⟨_, hR, hQ.1⟩, _, hRs, hQ.2⟩
    · rintro ⟨⟨y, hR, hQ⟩, ys, hRs, hQs⟩
      exact ⟨y :: ys, .cons hR hRs, List.forall_mem_cons.2 ⟨hQ, hQs⟩⟩

namespace Shape

variable {α : Type} {read : Datum → Except Mismatch α}

/-- A list is read exactly if each of its items is. -/
theorem readItems_eq_ok_iff {i : Nat} {ds : List Datum} {xs : List α} :
    readItems read i ds = .ok xs ↔ List.Forall₂ (fun d x => read d = .ok x) ds xs := by
  induction ds generalizing i xs with
  | nil => simp [readItems, eq_comm]
  | cons d ds ih =>
    rw [List.forall₂_cons_left_iff, readItems]
    cases hd : read d with
    | error m => simp
    | ok x => simp [map_eq_ok_iff, ih, @eq_comm _ xs]

/-- A map of any names is read exactly if each of its values is; the names stay. -/
theorem readEntries_eq_ok_iff {es : Entries Datum} {xs : Entries α} :
    readEntries read es = .ok xs ↔
      List.Forall₂ (fun e x => e.1 = x.1 ∧ read e.2 = .ok x.2) es xs := by
  induction es generalizing xs with
  | nil => simp [readEntries, eq_comm]
  | cons e es ih =>
    obtain ⟨k, d⟩ := e
    rw [List.forall₂_cons_left_iff, readEntries]
    cases hd : read d with
    | error m => simp
    | ok x => simp [map_eq_ok_iff, ih, @eq_comm _ xs]

/-- Where every value is accepted, a map is read as it is. -/
theorem readEntries_any (es : Entries Datum) : readEntries (Shape.read any) es = .ok es := by
  rw [readEntries_eq_ok_iff, List.forall₂_same]
  exact fun _ _ => ⟨rfl, rfl⟩

/-- Only a map is read as an entity's entries, and as it is. -/
theorem read_object_eq_ok_iff {d : Datum} {es : Entries Datum} :
    object.read d = .ok es ↔ d = .map es := by
  cases d with
  | map es' => rw [Shape.read, readEntries_any, Except.ok.injEq, Datum.map.injEq]
  | _ => simp [Shape.read]

/-- Only a list of maps is read as the entries of several entities. -/
theorem read_objects_eq_ok_iff {d : Datum} {items : List (Entries Datum)} :
    objects.read d = .ok items ↔ d = .list (items.map .map) := by
  cases d with
  | list ds =>
    have h : (fun d es => object.read d = .ok es) = fun d (es : Entries Datum) => d = .map es :=
      funext fun _ => funext fun _ => propext read_object_eq_ok_iff
    rw [Shape.read, readItems_eq_ok_iff, h, ← List.forall₂_map_right_iff, List.forall₂_eq_eq_eq,
      Datum.list.injEq]
  | _ => simp [Shape.read]

end Shape

namespace Reader

variable {α : Type}

/-- Items are decoded exactly if each of them is. -/
theorem decodeItems_eq_ok_iff {kind : String} {decode : Decoder α} {v : Version} {i : Nat}
    {items : List (Entries Datum)} {xs : List α} :
    decodeItems kind decode v i items = .ok xs ↔
      List.Forall₂ (fun es x => decode es v = .ok x) items xs := by
  induction items generalizing i xs with
  | nil => simp [decodeItems, eq_comm]
  | cons es items ih =>
    rw [List.forall₂_cons_left_iff, decodeItems]
    cases hd : decode es v with
    | error e => simp
    | ok x => simp [map_eq_ok_iff, ih, @eq_comm _ xs]

variable {r : Reader α} {v : Version}

/-- A decoder is declared at the version or below it. -/
def ReadsAt (r : Reader α) (v : Version) : Prop := ∃ decode, r.registry.resolve v = .ok decode

/-- The entries of an entity are those of a map. -/
theorem entriesOf_eq_ok_iff {d : Datum} {es : Entries Datum} :
    r.entriesOf d = .ok es ↔ d = .map es :=
  mapError_eq_ok_iff.trans Shape.read_object_eq_ok_iff

/-- The items of a list of entities are those of a list of maps. -/
theorem itemsOf_eq_ok_iff {d : Datum} {items : List (Entries Datum)} :
    r.itemsOf d = .ok items ↔ d = .list (items.map .map) :=
  mapError_eq_ok_iff.trans Shape.read_objects_eq_ok_iff

/-- A value is read exactly if it is a map that the decoder takes. -/
theorem readAt_eq_ok_iff {decode : Decoder α} (resolves : r.registry.resolve v = .ok decode)
    {d : Datum} {x : α} : r.readAt (.ok v) d = .ok x ↔ ∃ es, d = .map es ∧ decode es v = .ok x := by
  simp [readAt, bind_eq_ok_iff, entriesOf_eq_ok_iff, resolves]

/-- A list is read exactly if each of its items is. -/
theorem readInnerList_eq_ok_iff (reads : r.ReadsAt v) {items : List (Entries Datum)}
    {xs : List α} :
    r.readInnerList v items = .ok xs ↔
      List.Forall₂ (fun es x => r.readInner v es = .ok x) items xs := by
  obtain ⟨decode, resolves⟩ := reads
  have inj (items' : List (Entries Datum)) :
      items.map Datum.map = items'.map Datum.map ↔ items = items' :=
    (List.map_injective_iff.2 fun _ _ h => Datum.map.inj h).eq_iff
  have inner (es : Entries Datum) (x : α) : r.readInner v es = .ok x ↔ decode es v = .ok x := by
    rw [readInner, read, readAt_eq_ok_iff resolves]
    simp
  simp [readInnerList, readList, readListAt, bind_eq_ok_iff, itemsOf_eq_ok_iff, resolves, inj,
    decodeItems_eq_ok_iff, inner]

/-- The reader takes the entries of a map as an entity. -/
def Takes (r : Reader α) (v : Version) (es : Entries Datum) : Prop :=
  ∃ x, r.readInner v es = .ok x

/-- An entity that may be missing can be read exactly if it is missing or the reader takes
it. -/
theorem exists_readInnerOptional_iff {o : Option (Entries Datum)} :
    (∃ x, r.readInnerOptional v o = .ok x) ↔ ∀ es ∈ o, r.Takes v es := by
  cases o with
  | none => simp [readInnerOptional]
  | some es => simp [readInnerOptional, map_eq_ok_iff, Takes]

/-- A list of entities can be read exactly if the reader takes each of them. -/
theorem exists_readInnerList_iff (reads : r.ReadsAt v) {items : List (Entries Datum)} :
    (∃ xs, r.readInnerList v items = .ok xs) ↔ ∀ es ∈ items, r.Takes v es := by
  simp only [readInnerList_eq_ok_iff reads]
  simpa [Takes] using
    exists_forall₂_iff (R := fun es x => r.readInner v es = .ok x) (Q := fun _ => True)

section OfSchema

variable {kind : String} {schema : Schema} {make : schema.Row → Version → Except Failure α}

/-- From 2.0 on a reader made of one schema resolves to it. -/
theorem resolve_ofSchema (recent : { release := [2, 0] } ≤ v) :
    (ofSchema kind schema make).registry.resolve v = .ok (fun es version => do
      let row ← check kind "2.0" schema es
      make row version) := by
  refine ((Registry.wellFormed_new kind).insert _ _).resolve_eq_ok_iff.2
    ⟨{ release := [2, 0] }, ⟨⟨?_, recent⟩, ?_⟩, rfl⟩
  · exact Version.mem_insertAscending.2 (.inl rfl)
  · rintro u ⟨hu, -⟩
    obtain rfl | hu := Version.mem_insertAscending.1 hu
    · exact le_refl _
    · cases hu

/-- From 2.0 on a reader made of one schema has a decoder. -/
theorem readsAt_ofSchema (recent : { release := [2, 0] } ≤ v) :
    (ofSchema kind schema make).ReadsAt v :=
  ⟨_, resolve_ofSchema recent⟩

/-- A reader made of one schema takes what the schema takes, if an entity can be made
of it. -/
theorem readAt_ofSchema_eq_ok_iff (recent : { release := [2, 0] } ≤ v) {d : Datum} {x : α} :
    (ofSchema kind schema make).readAt (.ok v) d = .ok x ↔
      ∃ es, d = .map es ∧ ∃ row, schema.readEntries es = .ok row ∧ make row v = .ok x := by
  simp only [readAt_eq_ok_iff (resolve_ofSchema recent), check, bind_eq_ok_iff,
    mapError_eq_ok_iff]

end OfSchema

end Reader
end BareMetal
