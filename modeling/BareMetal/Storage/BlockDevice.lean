/-
# Block devices

A physical or virtual block device comes with its partitions. Sizes are in bytes.
-/

import BareMetal.Identity
import BareMetal.Number.Decimal
import BareMetal.Storage.Partition

namespace BareMetal

/-- A physical or virtual block device. -/
structure BlockDevice where
  resourceUri : String
  id : Int
  path : String
  usedFor : String
  size : Nat
  name : String := ""
  uuid : String := ""
  model : String := ""
  idPath : String := ""
  tags : List String := []
  blockSize : Nat := 0
  usedSize : Nat := 0
  filesystem : Option FileSystem := none
  partitions : List Partition := []
deriving DecidableEq, Repr

namespace BlockDevice

/-- The partition with an identifier. -/
def partition (d : BlockDevice) (id : Int) : Option Partition :=
  findById Partition.id id d.partitions

/-- The device with a newer state of one of its partitions. The failure for an
unknown partition shows its identifier. -/
def withPartition (d : BlockDevice) (new : Partition) : Except Failure BlockDevice :=
  match d.partition new.id with
  | some _ => .ok { d with partitions := replaceById Partition.id new d.partitions }
  | none => do
    let id ← Numeral.write new.id
    .error (.plain .missing s!"partition {id} not found")

/-- The wire fields of a block device. -/
@[reducible] def schema : Schema := [
  { name := "resource_uri", shape := .text },
  { name := "id", shape := .number },
  { name := "uuid", shape := .textOrEmpty },
  { name := "name", shape := .textOrEmpty },
  { name := "model", shape := .textOrEmpty },
  { name := "id_path", shape := .textOrEmpty },
  { name := "path", shape := .text },
  { name := "used_for", shape := .text },
  { name := "tags", shape := .prepared (.nullAs (.list [])) (.list .text) },
  { name := "block_size", shape := .prepared (.nullAs (.int 0)) .size },
  { name := "used_size", shape := .prepared (.nullAs (.int 0)) .size },
  { name := "size", shape := .size },
  { name := "filesystem", shape := .nullable .object, default := some none },
  { name := "partitions", shape := .prepared (.nullAs (.list [])) .objects }]

/-- The block device of a row. -/
def ofRow : schema.Row → Version → Except Failure BlockDevice
  | (resourceUri, id, uuid, name, model, idPath, path, usedFor, tags, blockSize, usedSize, size,
      filesystem, partitions, ()), version => do
    let filesystem ← FileSystem.reader.readInnerOptional version filesystem
    let partitions ← Partition.reader.readInnerList version partitions
    return { resourceUri, id, path, usedFor, size, name, uuid, model, idPath, tags, blockSize,
             usedSize, filesystem, partitions }

/-- Reads block devices. -/
def reader : Reader BlockDevice := .ofSchema "blockdevice" schema ofRow

/-- The row of a block device. -/
def toRow (d : BlockDevice) : schema.Row :=
  (d.resourceUri, d.id, d.uuid, d.name, d.model, d.idPath, d.path, d.usedFor, d.tags,
    d.blockSize, d.usedSize, d.size, d.filesystem.map FileSystem.toEntries,
    d.partitions.map Partition.toEntries, ())

/-- The wire form of a block device, with every field written. -/
def toEntries (d : BlockDevice) : Entries Datum := schema.writeEntries d.toRow

end BlockDevice

end BareMetal
