/-
# Volume groups

A volume group comes with its block devices. Sizes are in bytes.
-/

import BareMetal.Storage.BlockDevice

namespace BareMetal

/-- An LVM volume group. -/
structure VolumeGroup where
  resourceUri : String
  id : Int
  name : String
  size : Nat
  uuid : String := ""
  devices : List BlockDevice := []
deriving DecidableEq, Repr

namespace VolumeGroup

/-- The wire fields of a volume group. -/
@[reducible] def schema : Schema := [
  { name := "resource_uri", shape := .text },
  { name := "id", shape := .number },
  { name := "name", shape := .text },
  { name := "uuid", shape := .textOrEmpty },
  { name := "size", shape := .size },
  { name := "devices", shape := .objects }]

/-- The volume group of a row. -/
def ofRow : schema.Row → Version → Except Failure VolumeGroup
  | (resourceUri, id, name, uuid, size, devices, ()), version => do
    let devices ← BlockDevice.reader.readInnerList version devices
    return { resourceUri, id, name, size, uuid, devices }

/-- Reads volume groups. -/
def reader : Reader VolumeGroup := .ofSchema "volumegroup" schema ofRow

/-- The row of a volume group. -/
def toRow (g : VolumeGroup) : schema.Row :=
  (g.resourceUri, g.id, g.name, g.uuid, g.size, g.devices.map BlockDevice.toEntries, ())

/-- The wire form of a volume group, with every field written. -/
def toEntries (g : VolumeGroup) : Entries Datum := schema.writeEntries g.toRow

end VolumeGroup

end BareMetal
