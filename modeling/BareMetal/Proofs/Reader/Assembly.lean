/-
# How the entities of a kind are read

The reader of every kind is made of one schema and of a step that assembles an entity
from what the schema has read (`Kind.assemble`). So a kind is read from a map by its
schema first, and then by the readers of the entities inside (`Kind.decode`); every
version from 2.0 on resolves to this decoder, and no older one to any
(`Kind.resolve_recent`, `Kind.resolve_old`).
-/

import BareMetal.Kind
import BareMetal.Proofs.Reader.Success

namespace BareMetal
namespace Kind

/-- Makes an entity of a kind of what was read by the schema of the kind. -/
def assemble : (k : Kind) → k.schema.Row → Version → Except Failure k.Carrier
  | vlan => fun row _ => .ok (Vlan.ofRow row)
  | subnet => Subnet.ofRow
  | link => Link.ofRow
  | interface => Interface.ofRow
  | fabric => Fabric.ofRow
  | space => Space.ofRow
  | staticRoute => StaticRoute.ofRow
  | fileSystem => fun row _ => .ok (FileSystem.ofRow row)
  | partition => Partition.ofRow
  | blockDevice => BlockDevice.ofRow
  | volumeGroup => VolumeGroup.ofRow
  | zone => fun row _ => .ok (Zone.ofRow row)
  | pool => fun row _ => .ok (Pool.ofRow row)
  | domain => fun row _ => .ok (Domain.ofRow row)
  | tag => fun row _ => .ok (Tag.ofRow row)
  | bootResource => fun row _ => .ok (BootResource.ofRow row)
  | storedFile => fun row _ => .ok (StoredFile.ofRow row)
  | device => Device.ofRow
  | machine => Machine.ofRow

/-- The reader of every kind is made of one schema, which is declared for 2.0, and of the
step that assembles an entity. -/
theorem reader_eq (k : Kind) : k.reader = .ofSchema k.reader.kind k.schema k.assemble := by
  cases k <;> rfl

/-- The decoder of a kind: the fields are read first, then the entities inside. -/
def decode (k : Kind) : Decoder k.Carrier := fun es v => do
  let row ← Reader.check k.reader.kind "2.0" k.schema es
  k.assemble row v

/-- How many kinds of entities are nested below a kind. -/
def depth : Kind → Nat
  | vlan | fileSystem | zone | pool | domain | tag | bootResource | storedFile => 0
  | subnet | partition | fabric => 1
  | link | space | staticRoute | blockDevice => 2
  | interface | volumeGroup => 3
  | device | machine => 4

variable {v : Version}

/-- A version before 2.0 has no decoder. -/
theorem resolve_old (old : v < { release := [2, 0] }) (k : Kind) :
    k.reader.registry.resolve v = .error (.plain .unsupportedVersion
      s!"no {k.reader.kind} read func for version {v.releaseText}") := by
  rw [reader_eq]
  refine ((Registry.wellFormed_new _).insert _ _).resolve_eq_error_iff.2 ⟨fun u hu => ?_, rfl⟩
  obtain rfl | hu := Version.mem_insertAscending.1 hu
  · exact Version.not_le.2 old
  · cases hu

variable (recent : { release := [2, 0] } ≤ v)
include recent

/-- Every version from 2.0 on has the decoder of the kind. -/
theorem resolve_recent (k : Kind) : k.reader.registry.resolve v = .ok k.decode := by
  rw [reader_eq]
  exact Reader.resolve_ofSchema recent

/-- The reader of every kind has a decoder for the version. -/
theorem readsAt (k : Kind) : k.reader.ReadsAt v := ⟨k.decode, resolve_recent recent k⟩

/-- A value is read as an entity exactly if it is a map, the schema reads the map and an
entity can be assembled of that. -/
theorem readAt_eq_ok_iff {k : Kind} {d : Datum} {x : k.Carrier} :
    k.reader.readAt (.ok v) d = .ok x ↔
      ∃ es, d = .map es ∧ ∃ row, k.schema.readEntries es = .ok row ∧ k.assemble row v = .ok x := by
  rw [k.reader_eq, Reader.readAt_ofSchema_eq_ok_iff recent]

end Kind
end BareMetal
