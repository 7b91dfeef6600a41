/-
# What the version of the interface decides

The version decides whether an entity is read, and never how
(`Kind.version_decides_whether`).

| version | single entities and lists |
| --- | --- |
| from 2.0 on | read alike at all of them, with the same failures |
| before 2.0 | what has the outer form fails as the kind that was asked for |

An entity is assembled of its fields and of what the readers of less deep kinds make of
the entities inside. So what two versions agree on below a kind they agree on at it
(`Kind.assemble_congr`), and the induction is on the depth of the kind.
-/

import BareMetal.Proofs.Reader.Fields
import Mathlib

namespace BareMetal
namespace Reader

variable {α : Type} {r : Reader α} {v w : Version}

/-- Inside an entity, the reader does the same at both versions. -/
structure AgreesInside (r : Reader α) (v w : Version) : Prop where
  single : r.readInner v = r.readInner w
  several : r.readInnerList v = r.readInnerList w

/-- Readers that agree on an entity inside agree on one that may be missing. -/
theorem AgreesInside.optional (h : r.AgreesInside v w) :
    r.readInnerOptional v = r.readInnerOptional w := by
  funext o
  cases o with
  | none => rfl
  | some es => rw [readInnerOptional, readInnerOptional, h.single]

/-- Where both versions resolve to a decoder that does the same at both, single entities and
lists are read alike. -/
theorem readAt_congr {decode : Decoder α} (hv : r.registry.resolve v = .ok decode)
    (hw : r.registry.resolve w = .ok decode) (h : ∀ es, decode es v = decode es w) (d : Datum) :
    r.readAt (.ok v) d = r.readAt (.ok w) d ∧ r.readListAt (.ok v) d = r.readListAt (.ok w) d := by
  constructor
  · cases hd : r.entriesOf d with
    | error e => simp [readAt, hd, bind, Except.bind]
    | ok es => simp [readAt, hd, bind, Except.bind, hv, hw, h]
  · cases hd : r.itemsOf d with
    | error e => simp [readListAt, hd, bind, Except.bind]
    | ok items =>
      have same : decodeItems r.kind decode v 0 items = decodeItems r.kind decode w 0 items :=
        decodeItems_eq_of_forall₂ (List.forall₂_same.2 fun es _ => h es) 0
      simp [readListAt, hd, bind, Except.bind, hv, hw, same]

end Reader

namespace Kind

variable {v w : Version}

/-- An entity is assembled alike where the entities inside are read alike. -/
theorem assemble_congr (k : Kind) (row : k.schema.Row)
    (inside : ∀ l : Kind, l.depth < k.depth → l.reader.AgreesInside v w) :
    k.assemble row v = k.assemble row w := by
  cases k
  all_goals repeat obtain ⟨_, row⟩ := row
  case subnet =>
    have vlans : Vlan.reader.AgreesInside v w := inside vlan (by decide)
    simp only [assemble, Subnet.ofRow, vlans.single]
  case link =>
    have subnets : Subnet.reader.AgreesInside v w := inside subnet (by decide)
    simp only [assemble, Link.ofRow, subnets.optional]
  case interface =>
    have vlans : Vlan.reader.AgreesInside v w := inside vlan (by decide)
    have links : Link.reader.AgreesInside v w := inside link (by decide)
    simp only [assemble, Interface.ofRow, vlans.optional, links.several]
  case fabric =>
    have vlans : Vlan.reader.AgreesInside v w := inside vlan (by decide)
    simp only [assemble, Fabric.ofRow, vlans.several]
  case space =>
    have vlans : Vlan.reader.AgreesInside v w := inside vlan (by decide)
    have subnets : Subnet.reader.AgreesInside v w := inside subnet (by decide)
    simp only [assemble, Space.ofRow, vlans.several, subnets.several]
  case staticRoute =>
    have subnets : Subnet.reader.AgreesInside v w := inside subnet (by decide)
    simp only [assemble, StaticRoute.ofRow, subnets.single]
  case partition =>
    have fileSystems : FileSystem.reader.AgreesInside v w := inside fileSystem (by decide)
    simp only [assemble, Partition.ofRow, fileSystems.optional]
  case blockDevice =>
    have fileSystems : FileSystem.reader.AgreesInside v w := inside fileSystem (by decide)
    have partitions : Partition.reader.AgreesInside v w := inside partition (by decide)
    simp only [assemble, BlockDevice.ofRow, fileSystems.optional, partitions.several]
  case volumeGroup =>
    have blockDevices : BlockDevice.reader.AgreesInside v w := inside blockDevice (by decide)
    simp only [assemble, VolumeGroup.ofRow, blockDevices.several]
  case device =>
    have interfaces : Interface.reader.AgreesInside v w := inside interface (by decide)
    have zones : Zone.reader.AgreesInside v w := inside zone (by decide)
    simp only [assemble, Device.ofRow, interfaces.several, zones.single]
  case machine =>
    have interfaces : Interface.reader.AgreesInside v w := inside interface (by decide)
    have zones : Zone.reader.AgreesInside v w := inside zone (by decide)
    have pools : Pool.reader.AgreesInside v w := inside pool (by decide)
    have blockDevices : BlockDevice.reader.AgreesInside v w := inside blockDevice (by decide)
    simp only [assemble, Machine.ofRow, interfaces.optional, interfaces.several, zones.single,
      pools.optional, blockDevices.several]
  -- the other kinds have no entities inside
  all_goals rfl

/-- From 2.0 on the version does not count. What is read for the entities inside is covered by
the induction, since their kinds are less deep. -/
theorem readAt_eq_of_recent (hv : { release := [2, 0] } ≤ v) (hw : { release := [2, 0] } ≤ w)
    (k : Kind) (d : Datum) :
    k.reader.readAt (.ok v) d = k.reader.readAt (.ok w) d ∧
      k.reader.readListAt (.ok v) d = k.reader.readListAt (.ok w) d := by
  have inside (l : Kind) (hl : l.depth < k.depth) : l.reader.AgreesInside v w :=
    ⟨funext fun es => (readAt_eq_of_recent hv hw l (.map es)).1,
      funext fun items => (readAt_eq_of_recent hv hw l (.list (items.map .map))).2⟩
  refine Reader.readAt_congr (resolve_recent hv k) (resolve_recent hw k) (fun es => ?_) d
  simp only [decode, assemble_congr k _ inside]
termination_by k.depth

/-- **The version decides whether an entity is read, and never how.** At any two versions from
2.0 on, a kind and its lists are read from every value with the same outcome, the failures
included. At a version before 2.0 there is no decoder, and everything that has the outer form
fails in the same way, as the kind that was asked for. -/
theorem version_decides_whether (k : Kind) {text : String}
    (parses : Version.ofText text = .ok v) :
    ({ release := [2, 0] } ≤ v →
      ∀ other w, Version.ofText other = .ok w → { release := [2, 0] } ≤ w → ∀ d,
        k.reader.readAt (Version.ofText text) d = k.reader.readAt (Version.ofText other) d ∧
        k.reader.readListAt (Version.ofText text) d =
          k.reader.readListAt (Version.ofText other) d) ∧
    (v < { release := [2, 0] } →
      ∃ e, e = .plain .unsupportedVersion
          s!"no {k.reader.kind} read func for version {v.releaseText}" ∧
        (Version.ofText text >>= k.reader.registry.resolve) = .error e ∧
        (∀ d es, Shape.object.read d = .ok es →
          k.reader.readAt (Version.ofText text) d = .error e) ∧
        ∀ d items, Shape.objects.read d = .ok items →
          k.reader.readListAt (Version.ofText text) d = .error e) := by
  rw [parses]
  refine ⟨fun hv other w parses' hw d => ?_, fun old => ⟨_, rfl, resolve_old old k, ?_, ?_⟩⟩
  · rw [parses']
    exact readAt_eq_of_recent hv hw k d
  · intro d es hd
    obtain rfl := Shape.read_object_eq_ok_iff.1 hd
    rw [Reader.readAt_map]
    change (k.reader.registry.resolve v >>= _) = _
    rw [resolve_old old]
    rfl
  · intro d items hd
    obtain rfl := Shape.read_objects_eq_ok_iff.1 hd
    exact Reader.readListAt_eq_error_of_resolve (resolve_old old k) items

/-- A link on a broken subnet, at a post-release of another epoch and at 2.0, and at the
candidate before 2.0. -/
theorem version_decides_whether_link :
    let d : Datum := .map [("id", .int 7), ("mode", .text "auto"), ("subnet", .map [])]
    Version.ofText "1!0.9.post1+x" =
        .ok { epoch := 1, release := [0, 9], post := some 1, locals := [.word "x"] } ∧
      Link.reader.readAt (Version.ofText "1!0.9.post1+x") d =
        Link.reader.readAt (Version.ofText "2") d ∧
      Link.reader.readAt (Version.ofText "2.0rc1") d =
        .error (.plain .unsupportedVersion "no link read func for version 2.0.0") := by
  intro d
  have parses : Version.ofText "1!0.9.post1+x" =
      .ok { epoch := 1, release := [0, 9], post := some 1, locals := [.word "x"] } := rfl
  have two : Version.ofText "2" = .ok { release := [2] } := rfl
  have candidate : Version.ofText "2.0rc1" =
      .ok { release := [2, 0], pre := some (.candidate, 1) } := rfl
  obtain ⟨_, rfl, -, single, -⟩ :=
    (link.version_decides_whether candidate).2 (by decide)
  exact ⟨parses, ((link.version_decides_whether parses).1 (by decide) "2" _ two (by decide) d).1,
    single d _ rfl⟩

end Kind
end BareMetal
