/-
# The first fault of an entity

Every shape that a schema of the library uses is sound (`Fits.sound`), so each of its schemas
rejects a map at the first value that is wrong. The failure to read an entity or a list of entities
ends in such a mismatch (`Kind.mismatch_points_at_first`).

| what is wrong | rejected by | what was rejected |
| --- | --- | --- |
| the outer form | the shape of a map, or of a list of maps | the whole value |
| the fields of an entity | the schema of its kind | the map that it is read from, at any depth |
-/

import BareMetal.Proofs.Schema.Place
import BareMetal.Proofs.Wire.Location

namespace BareMetal

/-- A stand-in for null changes null only. -/
theorem Preparation.eq_null_of_nullAs {stand d : Datum}
    (changed : (Preparation.nullAs stand).apply d ≠ d) : d = .null := by
  by_contra given
  cases d with
  | null => exact given rfl
  | _ => exact changed rfl

/-- A stand-in for null that the shape takes keeps it sound. -/
theorem Shape.sound_nullAs {s : Shape} {stand : Datum} {c : s.Carrier} (sound : s.Sound)
    (reads : s.read stand = .ok c) : (prepared (.nullAs stand) s).Sound := by
  refine ⟨sound, fun d changed => ?_⟩
  obtain rfl := Preparation.eq_null_of_nullAs changed
  exact ⟨c, reads⟩

/-- What stands for a value of the grammar is a value of the grammar. -/
theorem Fits.sound {t : WireType} {s : Shape} (fits : Fits t s) : s.Sound := by
  induction fits with
  | text | flag | number | size => trivial
  | listOf item ih => exact ih
  | mapOf value ih => exact ih
  | nullable value ih => exact ih
  | nullAs value reads plain ih => exact Shape.sound_nullAs ih reads
  | flagOrWord =>
    refine ⟨trivial, fun d changed => ?_⟩
    cases d with
    | text s =>
      rw [Preparation.apply] at changed ⊢
      by_cases yes : Text.spells "true" s
      · exact ⟨true, by rw [if_pos yes]; rfl⟩
      · by_cases no : Text.spells "false" s
        · exact ⟨false, by rw [if_neg yes, if_pos no]; rfl⟩
        · rw [if_neg yes, if_neg no] at changed
          exact absurd rfl changed
    | _ => exact absurd rfl changed
  | settings =>
    refine ⟨trivial, fun d changed => ?_⟩
    cases d with
    | null => exact ⟨"", rfl⟩
    | map es => exact ⟨"", rfl⟩
    | _ => exact absurd rfl changed
  | entity k => trivial

/-- Every field of every kind has a sound shape. -/
theorem Kind.schema_sound (k : Kind) : ∀ f ∈ k.schema, f.shape.Sound :=
  ((List.forall₂_and_left _ _).1 (k.schema_reads.imp fun _ _ reads => ⟨reads.fits.sound, reads⟩)).1

/-- An entity that may be missing fails as the entity does, since null does not fail. -/
theorem Reader.readAt_of_readOptionalAt {α : Type} {r : Reader α} {version : Except Failure Version}
    {d : Datum} {e : Failure} (h : r.readOptionalAt version d = .error e) :
    r.readAt version d = .error e := by
  cases d with
  | null => cases h
  | _ =>
    rw [readOptionalAt] at h
    · exact map_eq_error_iff.1 h
    · nofun

/-- A list that may be missing fails as the list does, since null does not fail. -/
theorem Reader.readListAt_of_readOptionalListAt {α : Type} {r : Reader α}
    {version : Except Failure Version} {d : Datum} {e : Failure}
    (h : r.readOptionalListAt version d = .error e) : r.readListAt version d = .error e := by
  cases d with
  | null => cases h
  | _ => exact h

/-- The last cause of the failure is the mismatch. -/
def Failure.EndsIn (e : Failure) (m : Mismatch) : Prop :=
  e.chain.getLast? = some ⟨.mismatch m, m.message⟩

/-- A failure that leads to a mismatch by its causes ends in it. -/
theorem Failure.Unwinds.endsIn {e : Failure} {labels : List String} {m : Mismatch}
    (h : e.Unwinds labels m) : e.EndsIn m := by
  have last (labels : List String) : labels.tails.getLast? = some [] := by
    induction labels with
    | nil => rfl
    | cons label labels ih =>
      rw [List.tails_cons, List.getLast?_cons, ih]
      rfl
  rw [Failure.EndsIn, h.chain_eq, List.getLast?_map, last]
  simp [Failure.labelled]

namespace Kind

/-- What stands inside a value without repeated names has none either. -/
theorem Leads.hasDistinctNames {k q : Kind} {es fault : Entries Datum} {trail : List (Kind × ℕ)}
    (leads : k.Leads es trail q fault) (distinct : (Datum.map es).HasDistinctNames) :
    (Datum.map fault).HasDistinctNames := by
  induction leads with
  | here k es => exact distinct
  | single mem type found rest ih => exact ih (distinct.of_get? found)
  | item mem type found place rest ih => exact ih ((distinct.of_get? found).of_getElem? place)

/-- The mismatch points at the first thing that is wrong in the outer form of a value, or in the
fields of the entity or of one inside it. -/
inductive Blames (k : Kind) (m : Mismatch) : Datum → Prop
  | outerForm {d : Datum} (first : Shape.object.IsFirst d m) : Blames k m d
  | inside {q : Kind} {es fault : Entries Datum} {trail : List (Kind × ℕ)}
      (leads : k.Leads es trail q fault) (first : q.schema.IsFirst (.map fault) m) :
      Blames k m (.map es)

/-- The same for a list of entities. -/
inductive BlamesInList (k : Kind) (m : Mismatch) : Datum → Prop
  | outerForm {d : Datum} (first : Shape.objects.IsFirst d m) : BlamesInList k m d
  | inside {items : List (Entries Datum)} {i : ℕ} {es : Entries Datum}
      (place : items[i]? = some es) (blames : k.Blames m (.map es)) :
      BlamesInList k m (.list (items.map .map))

section Shown

variable {k : Kind} {e : Failure}

/-- A failure that shows the place of a fault ends in a mismatch at the first thing that is
wrong there. -/
theorem ShowsFault.exists_blames {es : Entries Datum} {front : List (Kind × ℕ)}
    (h : k.ShowsFault es front e) (distinct : (Datum.map es).HasDistinctNames) :
    ∃ m, e.EndsIn m ∧ k.Blames m (.map es) := by
  obtain ⟨leads, wrong, -, unwinds⟩ := h
  have first := Schema.isFirst_of_readEntries_eq_error (schema_sound _)
    (leads.hasDistinctNames distinct) wrong
  exact ⟨_, unwinds.endsIn, .inside leads first⟩

/-- A failure to read an entity ends in a mismatch at the first thing that is wrong in it. -/
theorem ShowsPlace.exists_blames {d : Datum} (h : k.ShowsPlace d e)
    (distinct : d.HasDistinctNames) : ∃ m, e.EndsIn m ∧ k.Blames m d := by
  cases h with
  | outerForm wrong unwinds =>
    have sound : Shape.object.Sound := trivial
    exact ⟨_, unwinds.endsIn, .outerForm (Shape.isFirst_of_read_eq_error sound distinct wrong)⟩
  | inside fault => exact fault.exists_blames distinct

/-- A failure to read a list ends in a mismatch at the first thing that is wrong in one of
its items, or in its outer form. -/
theorem ShowsPlaceInList.exists_blames {d : Datum} (h : k.ShowsPlaceInList d e)
    (distinct : d.HasDistinctNames) : ∃ m, e.EndsIn m ∧ k.BlamesInList m d := by
  cases h with
  | outerForm wrong unwinds =>
    have sound : Shape.objects.Sound := trivial
    exact ⟨_, unwinds.endsIn, .outerForm (Shape.isFirst_of_read_eq_error sound distinct wrong)⟩
  | @inside items i es _ place fault =>
    have item : (items.map Datum.map)[i]? = some (.map es) := by rw [List.getElem?_map, place]; rfl
    obtain ⟨m, ends, blames⟩ := fault.exists_blames (distinct.of_getElem? item)
    exact ⟨m, ends, .inside place blames⟩

end Shown

section Checked

variable {version : Except Failure Version} {e : Failure} {d : Datum}

/-- A version fails without a decoder as a version, never as a value of the wrong form. -/
theorem recent_or_unresolved (k : Kind) (text : String) :
    (∃ v, Version.ofText text = .ok v ∧ { release := [2, 0] } ≤ v) ∨
      ∃ e, (Version.ofText text >>= k.reader.registry.resolve) = .error e ∧
        e.kind ≠ .deserialization := by
  cases parses : Version.ofText text with
  | error e =>
    refine .inr ⟨e, rfl, fun kind => ?_⟩
    rw [Version.ofText] at parses
    split at parses <;> cases parses <;> cases kind
  | ok v =>
    by_cases recent : { release := [2, 0] } ≤ v
    · exact .inl ⟨v, rfl, recent⟩
    · exact .inr ⟨_, resolve_old (Version.not_le.1 recent) k, fun kind => by cases kind⟩

/-- Without a decoder the outer form alone fails as a value of the wrong form. -/
theorem showsPlace_of_unresolved {k : Kind} {e' : Failure}
    (unresolved : (version >>= k.reader.registry.resolve) = .error e')
    (other : e'.kind ≠ .deserialization) (kind : e.kind = .deserialization) :
    (k.reader.readAt version d = .error e → k.ShowsPlace d e) ∧
      (k.reader.readListAt version d = .error e → k.ShowsPlaceInList d e) := by
  refine ⟨fun h => ?_, fun h => ?_⟩
  · cases hd : Shape.object.read d with
    | error m =>
      rw [Reader.readAt, Reader.entriesOf, hd] at h
      cases h
      exact .outerForm hd (Failure.unwinds_deserialization _ m)
    | ok es =>
      obtain rfl := Shape.read_object_eq_ok_iff.1 hd
      rw [Reader.readAt_eq_error_of_resolve unresolved] at h
      cases h
      exact absurd kind other
  · cases hd : Shape.objects.read d with
    | error m =>
      rw [Reader.readListAt, Reader.itemsOf, hd] at h
      cases h
      exact .outerForm hd (Failure.unwinds_deserialization _ m)
    | ok items =>
      obtain rfl := Shape.read_objects_eq_ok_iff.1 hd
      rw [Reader.readListAt_eq_error_of_resolve unresolved] at h
      cases h
      exact absurd kind other

/-- Whatever the version, a value that fails to have the right form shows the place. -/
theorem showsPlace_of_deserialization (k : Kind) (text : String)
    (kind : e.kind = .deserialization) :
    (k.reader.readAt (Version.ofText text) d = .error e → k.ShowsPlace d e) ∧
      (k.reader.readListAt (Version.ofText text) d = .error e → k.ShowsPlaceInList d e) := by
  rcases recent_or_unresolved k text with ⟨v, parses, recent⟩ | ⟨e', unresolved, other⟩
  · rw [parses]
    exact ⟨showsPlace_of_readAt_eq_error recent k, showsPlaceInList_of_readListAt_eq_error recent k⟩
  · exact showsPlace_of_unresolved unresolved other kind

end Checked

/-- **A mismatch points at the first value that is wrong.** A schema that rejects a value rejects
it there: what comes before is taken, and the shape at the place rejects the value at the place by
itself. Such a mismatch is the last cause of every failure to read an entity or a list of entities
as a value of the wrong form. The shapes of the grammar are sound (`Fits.sound`), and values that
are read from JSON repeat no names (`Json.hasDistinctNames_of_parse`). -/
theorem mismatch_points_at_first :
    (∀ (s : Schema) d m, (∀ f ∈ s, f.shape.Sound) → d.HasDistinctNames → s.read d = .error m →
      s.IsFirst d m) ∧
    ∀ (k : Kind) (text : String) (d : Datum) (e : Failure), d.HasDistinctNames →
      e.kind = .deserialization →
      ((k.reader.readAt (Version.ofText text) d = .error e ∨
          k.reader.readOptionalAt (Version.ofText text) d = .error e) →
        ∃ m, e.EndsIn m ∧ k.Blames m d) ∧
      ((k.reader.readListAt (Version.ofText text) d = .error e ∨
          k.reader.readOptionalListAt (Version.ofText text) d = .error e) →
        ∃ m, e.EndsIn m ∧ k.BlamesInList m d) := by
  refine ⟨fun s d m sound distinct h => Schema.isFirst_of_read_eq_error sound distinct h, ?_⟩
  intro k text d e distinct kind
  obtain ⟨single, several⟩ := k.showsPlace_of_deserialization text kind
  refine ⟨fun h => (single ?_).exists_blames distinct, fun h => (several ?_).exists_blames distinct⟩
  · rcases h with h | h
    · exact h
    · exact Reader.readAt_of_readOptionalAt h
  · rcases h with h | h
    · exact h
    · exact Reader.readListAt_of_readOptionalListAt h

/-- A list of sizes with a negative one, in a map that has the fields in another order, and the
second of two fabrics, with a VLAN that lacks everything. -/
theorem mismatch_points_at_first_size :
    let s : Schema := [{ name := "a", shape := .text },
      { name := "b", shape := .prepared (.nullAs (.list [])) (.list .size) }]
    let sizes : Datum := .map [("b", .list [.text "1", .text "-5", .null]), ("a", .text "")]
    let m : Mismatch := ⟨.unsignedNumber, .int (-5), [.name "b", .index 1]⟩
    let withVlans (vlans : List Datum) : Datum := .map [("resource_uri", .text "/"),
      ("id", .text "1"), ("name", .text "a"), ("vlans", .list vlans)]
    (∀ f ∈ s, f.shape.Sound) ∧
      Json.parse "\x7b\"b\": [\"1\", \"-5\", null], \"a\": \"\"\x7d".toList = .ok sizes ∧
      s.read sizes = .error m ∧ s.IsFirst sizes m ∧
      ∃ e, Fabric.reader.readListAt (Version.ofText "2.3")
          (.list [withVlans [], withVlans [.map []]]) = .error e ∧ e.kind = .deserialization ∧
        ∃ m, e.EndsIn m ∧ fabric.BlamesInList m (.list [withVlans [], withVlans [.map []]]) := by
  intro s sizes m withVlans
  have sound : ∀ f ∈ s, f.shape.Sound := by
    have list : (Shape.list .size).Sound := trivial
    simp only [s, List.forall_mem_cons]
    exact ⟨trivial, Shape.sound_nullAs list rfl, List.forall_mem_nil _⟩
  have parses : Json.parse "\x7b\"b\": [\"1\", \"-5\", null], \"a\": \"\"\x7d".toList =
      .ok sizes := by cbv
  have wrong : s.read sizes = .error m := by cbv
  have distinct (vlans : List Datum) (h : ∀ d ∈ vlans, d.HasDistinctNames) :
      (withVlans vlans).HasDistinctNames :=
    .map (by simp [Entries.names]) (by simpa using ⟨.text _, .text _, .text _, .list h⟩)
  have none : (Datum.map []).HasDistinctNames := .map List.nodup_nil (List.forall_mem_nil _)
  have broken : (Datum.list [withVlans [], withVlans [.map []]]).HasDistinctNames :=
    .list (by
      simpa using ⟨distinct [] (List.forall_mem_nil _), distinct [.map []] (by simpa using none)⟩)
  have fails : Fabric.reader.readListAt (Version.ofText "2.3")
      (.list [withVlans [], withVlans [.map []]]) =
        .error (Reader.schemaFailure "vlan" "2.0" ⟨.text, .null, [.name "resource_uri"]⟩
          |>.annotate "vlan 0" |>.annotate "fabric 1") := by cbv
  obtain ⟨schemas, entities⟩ := mismatch_points_at_first
  have first := schemas s sizes m sound (Json.hasDistinctNames_of_parse parses) wrong
  exact ⟨sound, parses, wrong, first, _, fails, rfl,
    (entities fabric "2.3" _ _ broken rfl).2 (.inl fails)⟩

end Kind
end BareMetal
