/-
# What a reader looks at

A reader of one kind looks at the entries of a map through the fields of its schema, and at
nothing else. So two maps with the same fields are read alike at every version, and two
lists are if their items are.
-/

import BareMetal.Proofs.Reader.Assembly
import BareMetal.Proofs.Reader.Listing

namespace BareMetal

variable {es fs : Entries Datum}

/-- A field is read alike in maps that hold the same under its name. -/
theorem Field.read_congr {f : Field} (h : es.get? f.name = fs.get? f.name) :
    f.read es = f.read fs := by
  unfold Field.read
  rw [h]

/-- A field that is there is read by its shape, with its name put in front of the place of a
mismatch. -/
theorem Field.read_present {f : Field} {d : Datum} (present : es.get? f.name = some d) :
    f.read es = (f.shape.read d).mapError (·.under (.name f.name)) := by
  rw [Field.read, present]

/-- A missing field is read as its default, which is not checked. -/
theorem Field.read_absent_of_default {f : Field} {c : f.shape.Carrier}
    (absent : es.get? f.name = none) (default : f.default = some c) : f.read es = .ok c := by
  rw [Field.read, absent, default]

/-- A missing field without a default is read as if null were there. -/
theorem Field.read_absent_of_no_default {f : Field} (absent : es.get? f.name = none)
    (required : f.default = none) :
    f.read es = (f.shape.read .null).mapError (·.under (.name f.name)) := by
  rw [Field.read, absent, required]

/-- Two maps are read alike if each field is. -/
theorem Schema.readEntries_congr {s : Schema} (h : ∀ f ∈ s, f.read es = f.read fs) :
    s.readEntries es = s.readEntries fs := by
  induction s with
  | nil => rfl
  | cons f s ih =>
    rw [List.forall_mem_cons] at h
    rw [Schema.readEntries, Schema.readEntries, h.1, ih h.2]

/-- A map is read exactly if each of its fields is. -/
theorem Schema.exists_readEntries_iff {s : Schema} :
    (∃ row, s.readEntries es = .ok row) ↔ ∀ f ∈ s, ∃ c, f.read es = .ok c := by
  induction s with
  | nil => simp [Schema.readEntries]
  | cons f s ih =>
    rw [List.forall_mem_cons, ← ih, Schema.readEntries]
    cases f.read es with
    | error m => simp
    | ok c => simp [map_eq_ok_iff]

/-- A row is read exactly if its first field and the rest of it are. -/
theorem Schema.readEntries_cons_eq_ok_iff {f : Field} {s : Schema} {c : f.shape.Carrier}
    {row : s.Row} : Schema.readEntries (f :: s) es = .ok (c, row) ↔
      f.read es = .ok c ∧ s.readEntries es = .ok row := by
  rw [Schema.readEntries]
  cases f.read es with
  | error m => simp
  | ok d => simp [map_eq_ok_iff, and_comm, eq_comm]

/-- A map that is read is still read if a field gets another value of its shape. -/
theorem Schema.exists_readEntries_put {s : Schema} (distinct : (s.map Field.name).Nodup)
    {row : s.Row} (before : s.readEntries es = .ok row) {f : Field} (mem : f ∈ s) {d : Datum}
    {c : f.shape.Carrier} (reads : f.shape.read d = .ok c) :
    ∃ row', s.readEntries (es.put f.name d) = .ok row' := by
  refine exists_readEntries_iff.2 fun g hg => ?_
  by_cases same : g.name = f.name
  · obtain rfl := List.inj_on_of_nodup_map distinct hg mem same
    refine ⟨c, ?_⟩
    rw [Field.read_present (Entries.get?_put_self es g.name d), reads]
    rfl
  · rw [Field.read_congr (Entries.get?_put_of_ne es d (Ne.symm same))]
    exact exists_readEntries_iff.1 ⟨row, before⟩ g hg

/-- If one field of a map that is read turns bad, then its mismatch is what is left. -/
theorem Schema.readEntries_eq_error_of_field {s : Schema} (distinct : (s.map Field.name).Nodup)
    {row : s.Row} (before : s.readEntries es = .ok row) {f : Field} (mem : f ∈ s) {m : Mismatch}
    (bad : f.read fs = .error m) (others : ∀ g ∈ s, g.name ≠ f.name → g.read fs = g.read es) :
    s.readEntries fs = .error m := by
  induction s with
  | nil => cases mem
  | cons g s ih =>
    obtain ⟨fresh, distinct⟩ := List.nodup_cons.1 distinct
    obtain ⟨same, others⟩ := List.forall_mem_cons.1 others
    rw [Schema.readEntries] at before ⊢
    rcases List.mem_cons.1 mem with rfl | mem
    · rw [bad]
    · have other : g.name ≠ f.name := fun h => fresh (h ▸ List.mem_map_of_mem mem)
      rw [same other]
      split at before
      · cases before
      · next c hc =>
        obtain ⟨row', hrow, -⟩ := map_eq_ok_iff.1 before
        rw [ih distinct hrow mem others]
        rfl

namespace Reader

variable {α : Type} {r : Reader α}

/-- A list is decoded alike where each of its items is. -/
theorem decodeItems_eq_of_forall₂ {kind : String} {decode : Decoder α} {v w : Version}
    {items items' : List (Entries Datum)}
    (h : List.Forall₂ (fun es fs => decode es v = decode fs w) items items') (i : Nat) :
    decodeItems kind decode v i items = decodeItems kind decode w i items' := by
  induction h generalizing i with
  | nil => rfl
  | cons head _ ih => rw [decodeItems, decodeItems, head, ih]

/-- The reader does the same with both maps, at every version. -/
def ReadsAlike (r : Reader α) (es fs : Entries Datum) : Prop :=
  ∀ version, r.readAt version (.map es) = r.readAt version (.map fs)

/-- An entity inside is read alike from maps that a reader does the same with. -/
theorem ReadsAlike.single (h : r.ReadsAlike es fs) (v : Version) :
    r.readInner v es = r.readInner v fs :=
  h (.ok v)

/-- An entity inside that may be missing is read alike, if both are missing or the reader
does the same with both. -/
theorem ReadsAlike.optional {o o' : Option (Entries Datum)} (h : Option.Rel r.ReadsAlike o o')
    (v : Version) : r.readInnerOptional v o = r.readInnerOptional v o' := by
  cases h with
  | none => rfl
  | some same => exact congrArg (Except.map some) (same.single v)

/-- Lists are read alike if their items are. -/
theorem readListAt_eq_of_forall₂ {items items' : List (Entries Datum)}
    (h : List.Forall₂ r.ReadsAlike items items') (version : Except Failure Version) :
    r.readListAt version (.list (items.map .map)) =
      r.readListAt version (.list (items'.map .map)) := by
  rw [readListAt_list, readListAt_list]
  cases version with
  | error e => rfl
  | ok v =>
    change (r.registry.resolve v >>= _) = (r.registry.resolve v >>= _)
    cases hr : r.registry.resolve v with
    | error e => rfl
    | ok decode =>
      refine decodeItems_eq_of_forall₂ (h.imp fun es fs hsame => ?_) 0
      have hread := hsame (.ok v)
      rw [readAt_map, readAt_map] at hread
      change (r.registry.resolve v >>= _) = (r.registry.resolve v >>= _) at hread
      rw [hr] at hread
      exact hread

/-- Entities inside are read alike, one by one. -/
theorem ReadsAlike.several {items items' : List (Entries Datum)}
    (h : List.Forall₂ r.ReadsAlike items items') (v : Version) :
    r.readInnerList v items = r.readInnerList v items' :=
  readListAt_eq_of_forall₂ h (.ok v)

end Reader

namespace Kind

/-- At a version from 2.0 on a map is decoded. -/
theorem readInner_eq {v : Version} (recent : { release := [2, 0] } ≤ v) (k : Kind)
    (es : Entries Datum) : k.reader.readInner v es = k.decode es v := by
  rw [Reader.readInner, Reader.read, Reader.readAt_map]
  change (k.reader.registry.resolve v >>= _) = _
  rw [resolve_recent recent]
  rfl

/-- What is read is read at a version from 2.0 on. -/
theorem recent_of_readAt_eq_ok {k : Kind} {version : Except Failure Version} {x : k.Carrier}
    (h : k.reader.readAt version (.map es) = .ok x) :
    ∃ v, version = .ok v ∧ { release := [2, 0] } ≤ v := by
  rw [Reader.readAt_map] at h
  obtain ⟨v, hv, h⟩ := bind_eq_ok_iff.1 h
  refine ⟨v, hv, ?_⟩
  by_contra old
  rw [resolve_old (Version.not_le.1 old)] at h
  cases h

/-- Maps that are decoded alike are read alike: a version before 2.0 decodes neither. -/
theorem readsAlike_of_decode (k : Kind)
    (same : ∀ v : Version, { release := [2, 0] } ≤ v → k.decode es v = k.decode fs v) :
    k.reader.ReadsAlike es fs := by
  intro version
  cases version with
  | error e =>
    rw [Reader.readAt_map, Reader.readAt_map]
    rfl
  | ok v =>
    by_cases recent : { release := [2, 0] } ≤ v
    · exact (readInner_eq recent k es).trans
        ((same v recent).trans (readInner_eq recent k fs).symm)
    · rw [Reader.readAt_map, Reader.readAt_map]
      change (k.reader.registry.resolve v >>= _) = (k.reader.registry.resolve v >>= _)
      rw [resolve_old (Version.not_le.1 recent)]
      rfl

/-- Maps with the same fields are read alike. -/
theorem readsAlike_of_readEntries (k : Kind)
    (same : k.schema.readEntries es = k.schema.readEntries fs) : k.reader.ReadsAlike es fs := by
  refine k.readsAlike_of_decode fun v _ => ?_
  unfold decode Reader.check
  rw [same]

end Kind
end BareMetal
