/-
# File systems

A file system is on a partition or on a whole block device.
-/

import BareMetal.Reader

namespace BareMetal

/-- A file system on a block device or a partition. -/
structure FileSystem where
  type : String
  uuid : String
  mountPoint : String := ""
  label : String := ""
deriving DecidableEq, Repr

namespace FileSystem

/-- The wire fields of a file system. -/
@[reducible] def schema : Schema := [
  { name := "fstype", shape := .text },
  { name := "mount_point", shape := .textOrEmpty },
  { name := "label", shape := .textOrEmpty },
  { name := "uuid", shape := .text }]

/-- The file system of a row. -/
def ofRow : schema.Row → FileSystem
  | (type, mountPoint, label, uuid, ()) => { type, uuid, mountPoint, label }

/-- Reads file systems. -/
def reader : Reader FileSystem := .ofSchema "filesystem" schema fun row _ => .ok (ofRow row)

/-- The row of a file system. -/
def toRow (f : FileSystem) : schema.Row :=
  (f.type, f.mountPoint, f.label, f.uuid, ())

/-- The wire form of a file system, with every field written. -/
def toEntries (f : FileSystem) : Entries Datum := schema.writeEntries f.toRow

end FileSystem

end BareMetal
