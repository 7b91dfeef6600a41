/-
# Devices

A device comes with its zone and its interfaces.
-/

import BareMetal.Network.Interface
import BareMetal.Node.Zone

namespace BareMetal

/-- A device that cannot be deployed. The parent is a machine, by its system
identifier. -/
structure Device where
  resourceUri : String
  systemId : String
  hostname : String
  fqdn : String
  zone : Zone
  parent : String := ""
  owner : String := ""
  ipAddresses : List String := []
  tags : List String := []
  interfaces : List Interface := []
deriving DecidableEq, Repr

namespace Device

/-- The wire fields of a device. -/
@[reducible] def schema : Schema := [
  { name := "resource_uri", shape := .text },
  { name := "system_id", shape := .text },
  { name := "hostname", shape := .text },
  { name := "fqdn", shape := .text },
  { name := "parent", shape := .nullable .text, default := some none },
  { name := "owner", shape := .nullable .text, default := some none },
  { name := "ip_addresses", shape := .list .text },
  { name := "tag_names", shape := .list .text, default := some [] },
  { name := "interface_set", shape := .objects, default := some [] },
  { name := "zone", shape := .object }]

/-- The device of a row. -/
def ofRow : schema.Row → Version → Except Failure Device
  | (resourceUri, systemId, hostname, fqdn, parent, owner, ipAddresses, tags, interfaces, zone,
      ()), version => do
    let interfaces ← Interface.reader.readInnerList version interfaces
    let zone ← Zone.reader.readInner version zone
    return { resourceUri, systemId, hostname, fqdn, zone, parent := parent.getD "",
             owner := owner.getD "", ipAddresses, tags, interfaces }

/-- Reads devices. -/
def reader : Reader Device := .ofSchema "device" schema ofRow

/-- The row of a device. -/
def toRow (d : Device) : schema.Row :=
  (d.resourceUri, d.systemId, d.hostname, d.fqdn, some d.parent, some d.owner, d.ipAddresses,
    d.tags, d.interfaces.map Interface.toEntries, d.zone.toEntries, ())

/-- The wire form of a device, with every field written. -/
def toEntries (d : Device) : Entries Datum := schema.writeEntries d.toRow

end Device

end BareMetal
