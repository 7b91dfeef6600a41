/-
# Partitions

A partition of a block device, with its file system if it has one. Sizes are in
bytes.
-/

import BareMetal.Storage.FileSystem

namespace BareMetal

/-- A partition of a block device. -/
structure Partition where
  resourceUri : String
  id : Int
  path : String
  usedFor : String
  size : Nat
  uuid : String := ""
  tags : List String := []
  filesystem : Option FileSystem := none
deriving DecidableEq, Repr

namespace Partition

/-- The wire fields of a partition. -/
@[reducible] def schema : Schema := [
  { name := "resource_uri", shape := .text },
  { name := "id", shape := .number },
  { name := "path", shape := .text },
  { name := "uuid", shape := .textOrEmpty },
  { name := "used_for", shape := .text },
  { name := "size", shape := .size },
  { name := "tags", shape := .list .text, default := some [] },
  { name := "filesystem", shape := .nullable .object, default := some none }]

/-- The partition of a row. -/
def ofRow : schema.Row → Version → Except Failure Partition
  | (resourceUri, id, path, uuid, usedFor, size, tags, filesystem, ()), version => do
    let filesystem ← FileSystem.reader.readInnerOptional version filesystem
    return { resourceUri, id, path, usedFor, size, uuid, tags, filesystem }

/-- Reads partitions. -/
def reader : Reader Partition := .ofSchema "partition" schema ofRow

/-- The row of a partition. -/
def toRow (p : Partition) : schema.Row :=
  (p.resourceUri, p.id, p.path, p.uuid, p.usedFor, p.size, p.tags,
    p.filesystem.map FileSystem.toEntries, ())

/-- The wire form of a partition, with every field written. -/
def toEntries (p : Partition) : Entries Datum := schema.writeEntries p.toRow

end Partition

end BareMetal
