/-
# Lists are read as their items are

A list of entities is read in one go: its outer form is checked as a whole, and the version
is resolved once. A single entity is read from its own outer form, and resolves the version
for itself. Both come to the same (`Kind.readList_follows_read`).

| the list | what comes of it |
| --- | --- |
| no list of maps | the failure of the outer form, whatever the version |
| a list of maps, no decoder for the version | the failure of the version, even of an empty list |
| a list of maps, of which one is not read | the failure of the first such, with its place |
| a list of maps, each of which is read | what is read of each |
-/

import BareMetal.Kind
import BareMetal.Proofs.Reader.Success
import Mathlib

namespace BareMetal
namespace Reader

variable {α : Type} {r : Reader α} {version : Except Failure Version}

/-- The first item that is not read as an entity is the one at `i`, and `e` is why. -/
structure FailsFirst (r : Reader α) (version : Except Failure Version)
    (items : List (Entries Datum)) (i : Nat) (e : Failure) : Prop where
  fails : ∃ es, items[i]? = some es ∧ r.readAt version (.map es) = .error e
  before : ∀ j < i, ∀ es, items[j]? = some es → ∃ x, r.readAt version (.map es) = .ok x

/-- The first item that cannot be decoded decides, whatever follows it. -/
theorem decodeItems_eq_error {kind : String} {decode : Decoder α} {v : Version} {e : Failure}
    {items : List (Entries Datum)} {i : Nat} (n : Nat)
    (fails : ∃ es, items[i]? = some es ∧ decode es v = .error e)
    (before : ∀ j < i, ∀ es, items[j]? = some es → ∃ x, decode es v = .ok x) :
    decodeItems kind decode v n items = .error (e.annotate s!"{kind} {n + i}") := by
  induction items generalizing n i with
  | nil =>
    obtain ⟨es, hes, -⟩ := fails
    cases hes
  | cons item items ih =>
    cases i with
    | zero =>
      obtain ⟨es, hes, he⟩ := fails
      obtain rfl : item = es := Option.some.inj hes
      rw [decodeItems, he]
      rfl
    | succ i =>
      obtain ⟨x, hx⟩ := before 0 (Nat.succ_pos i) item rfl
      have rest := ih (n + 1) (by simpa using fails)
        fun j hj es hes => before (j + 1) (Nat.succ_lt_succ hj) es (by simpa using hes)
      rw [decodeItems, hx, rest, Nat.add_right_comm, Nat.add_assoc]
      rfl

/-- A map is read by the decoder that its version resolves to. -/
theorem readAt_map (es : Entries Datum) :
    r.readAt version (.map es) =
      version >>= fun v => r.registry.resolve v >>= fun decode => decode es v := by
  rw [readAt, entriesOf_eq_ok_iff.2 rfl]
  rfl

/-- A list of maps is read, from its first item on, by the decoder that its version resolves
to. -/
theorem readListAt_list (items : List (Entries Datum)) :
    r.readListAt version (.list (items.map .map)) =
      version >>= fun v => r.registry.resolve v >>= fun decode =>
        decodeItems r.kind decode v 0 items := by
  rw [readListAt, itemsOf_eq_ok_iff.2 rfl]
  rfl

/-- What is no list of maps fails before the version is looked at. -/
theorem exists_readListAt_eq_baseFailure {d : Datum}
    (h : ¬ ∃ items : List (Entries Datum), d = .list (items.map .map)) :
    ∃ m, ∀ version, r.readListAt version d = .error (baseFailure r.kind m) := by
  cases hd : Shape.objects.read d with
  | ok items => exact absurd ⟨items, Shape.read_objects_eq_ok_iff.1 hd⟩ h
  | error m =>
    refine ⟨m, fun version => ?_⟩
    rw [readListAt, itemsOf, hd]
    rfl

/-- Where the version has a decoder, a list and a single map are read by it. -/
theorem exists_decoder {decode : Decoder α}
    (resolves : (version >>= r.registry.resolve) = .ok decode) :
    ∃ v, (∀ es, r.readAt version (.map es) = decode es v) ∧
      ∀ items : List (Entries Datum), r.readListAt version (.list (items.map .map)) =
        decodeItems r.kind decode v 0 items := by
  obtain ⟨v, rfl, hv⟩ := bind_eq_ok_iff.1 resolves
  refine ⟨v, fun es => ?_, fun items => ?_⟩
  · rw [readAt_map]
    change (r.registry.resolve v >>= _) = _
    rw [hv]
    rfl
  · rw [readListAt_list]
    change (r.registry.resolve v >>= _) = _
    rw [hv]
    rfl

/-- A version without a decoder fails before any entry is looked at. -/
theorem readAt_eq_error_of_resolve {e : Failure}
    (unresolved : (version >>= r.registry.resolve) = .error e) (es : Entries Datum) :
    r.readAt version (.map es) = .error e := by
  rw [readAt_map]
  cases version with
  | error e' =>
    cases unresolved
    rfl
  | ok v =>
    change r.registry.resolve v = .error e at unresolved
    change (r.registry.resolve v >>= _) = _
    rw [unresolved]
    rfl

/-- A version without a decoder fails before any item is looked at. -/
theorem readListAt_eq_error_of_resolve {e : Failure}
    (unresolved : (version >>= r.registry.resolve) = .error e) (items : List (Entries Datum)) :
    r.readListAt version (.list (items.map .map)) = .error e := by
  rw [readListAt_list]
  cases version with
  | error e' =>
    cases unresolved
    rfl
  | ok v =>
    change r.registry.resolve v = .error e at unresolved
    change (r.registry.resolve v >>= _) = _
    rw [unresolved]
    rfl

/-- A list is read exactly if its version has a decoder and each of its items is read. -/
theorem readListAt_eq_ok_iff {d : Datum} {xs : List α} :
    r.readListAt version d = .ok xs ↔
      ∃ items : List (Entries Datum), d = .list (items.map .map) ∧
        (∃ decode, (version >>= r.registry.resolve) = .ok decode) ∧
        List.Forall₂ (fun es x => r.readAt version (.map es) = .ok x) items xs := by
  have decoded {decode : Decoder α} (resolves : (version >>= r.registry.resolve) = .ok decode)
      (items : List (Entries Datum)) :
      r.readListAt version (.list (items.map .map)) = .ok xs ↔
        List.Forall₂ (fun es x => r.readAt version (.map es) = .ok x) items xs := by
    obtain ⟨v, hsingle, hlist⟩ := exists_decoder resolves
    simp only [hlist, decodeItems_eq_ok_iff, hsingle]
  constructor
  · intro h
    obtain ⟨items, hitems, hrest⟩ := bind_eq_ok_iff.1 h
    obtain ⟨v, hv, hrest⟩ := bind_eq_ok_iff.1 hrest
    obtain ⟨decode, hdecode, -⟩ := bind_eq_ok_iff.1 hrest
    obtain rfl := itemsOf_eq_ok_iff.1 hitems
    have resolves : (version >>= r.registry.resolve) = .ok decode :=
      bind_eq_ok_iff.2 ⟨v, hv, hdecode⟩
    exact ⟨items, rfl, ⟨decode, resolves⟩, (decoded resolves items).1 h⟩
  · rintro ⟨items, rfl, ⟨decode, resolves⟩, hitems⟩
    exact (decoded resolves items).2 hitems

/-- The failure of the first item that is not read is the failure of the list, with the place
of the item in front. -/
theorem FailsFirst.readListAt_eq {items : List (Entries Datum)} {i : Nat} {e : Failure}
    (h : r.FailsFirst version items i e)
    (resolves : ∃ decode, (version >>= r.registry.resolve) = .ok decode) :
    r.readListAt version (.list (items.map .map)) = .error (e.annotate s!"{r.kind} {i}") := by
  obtain ⟨decode, hdecode⟩ := resolves
  obtain ⟨v, hsingle, hlist⟩ := exists_decoder hdecode
  rw [hlist, ← Nat.zero_add i]
  refine decodeItems_eq_error 0 ?_ fun j hj es hes => ?_
  · simpa only [hsingle] using h.fails
  · simpa only [hsingle] using h.before j hj es hes

end Reader

/-- **Lists are read as their items are.** For every kind: what is no list of maps fails in the
same way at every version; a list of maps fails with the version, if that has no decoder, even
if it is empty; it is read exactly if each item is, and as what is read of each; and else it
fails as the first item that is not read does, with the kind and the place of the item in front
of the message, and that failure as the cause. -/
theorem Kind.readList_follows_read (k : Kind) (d : Datum) :
    ((¬ ∃ items : List (Entries Datum), d = .list (items.map .map)) →
      ∃ m, ∀ text, k.reader.readListAt (Version.ofText text) d =
        .error (Reader.baseFailure k.reader.kind m)) ∧
    (∀ text (items : List (Entries Datum)) e, d = .list (items.map .map) →
      (Version.ofText text >>= k.reader.registry.resolve) = .error e →
        k.reader.readListAt (Version.ofText text) d = .error e) ∧
    (∀ text xs, k.reader.readListAt (Version.ofText text) d = .ok xs ↔
      ∃ items : List (Entries Datum), d = .list (items.map .map) ∧
        (∃ decode, (Version.ofText text >>= k.reader.registry.resolve) = .ok decode) ∧
        List.Forall₂ (fun es x => k.reader.readAt (Version.ofText text) (.map es) = .ok x)
          items xs) ∧
    (∀ text (items : List (Entries Datum)) i e, d = .list (items.map .map) →
      (∃ decode, (Version.ofText text >>= k.reader.registry.resolve) = .ok decode) →
      k.reader.FailsFirst (Version.ofText text) items i e →
        ∃ e', k.reader.readListAt (Version.ofText text) d = .error e' ∧ e'.kind = e.kind ∧
          e'.message = s!"{k.reader.kind} {i}: {e.message}" ∧ e'.causes = e.chain) := by
  refine ⟨fun h => ?_, ?_, fun text xs => Reader.readListAt_eq_ok_iff, ?_⟩
  · obtain ⟨m, hm⟩ := Reader.exists_readListAt_eq_baseFailure (r := k.reader) h
    exact ⟨m, fun text => hm _⟩
  · rintro text items e rfl unresolved
    exact Reader.readListAt_eq_error_of_resolve unresolved items
  · rintro text items i e rfl resolves first
    exact ⟨_, first.readListAt_eq resolves, rfl, rfl, rfl⟩

/-- The second one of three zones has no fields. -/
theorem Kind.readList_second_zone :
    let good : Entries Datum :=
      [("resource_uri", .text "/"), ("name", .text "a"), ("description", .text "")]
    let e := Reader.schemaFailure "zone" "2.0"
      { expected := .text, got := .null, path := [.name "resource_uri"] }
    (∃ decode, (Version.ofText "2.1" >>= Zone.reader.registry.resolve) = .ok decode) ∧
    Zone.reader.FailsFirst (Version.ofText "2.1") [good, [], good] 1 e ∧
    ∃ e', Zone.reader.readListAt (Version.ofText "2.1") (.list [.map good, .map [], .map good]) =
        .error e' ∧
      e'.kind = e.kind ∧ e'.message = s!"zone 1: {e.message}" ∧ e'.causes = e.chain := by
  intro good e
  have parses : Version.ofText "2.1" = .ok { release := [2, 1] } := rfl
  have resolves : ∃ decode, (Version.ofText "2.1" >>= Zone.reader.registry.resolve) =
      .ok decode := by
    rw [parses]
    exact Reader.readsAt_ofSchema (by decide)
  have first : Zone.reader.FailsFirst (Version.ofText "2.1") [good, [], good] 1 e := by
    refine ⟨⟨[], rfl, by cbv⟩, fun j hj es hes => ?_⟩
    obtain rfl : j = 0 := Nat.lt_one_iff.1 hj
    obtain rfl : good = es := Option.some.inj hes
    exact ⟨⟨"/", "a", ""⟩, by cbv⟩
  exact ⟨resolves, first, (Kind.zone.readList_follows_read _).2.2.2 "2.1" _ 1 e rfl resolves first⟩

end BareMetal
