/-
# VLANs

A VLAN belongs to a fabric. Its racks are known by their system identifiers.
-/

import BareMetal.Reader

namespace BareMetal

/-- A VLAN of a fabric. Racks are named by their system identifiers. -/
structure Vlan where
  resourceUri : String
  id : Int
  name : String := ""
  fabric : String
  vid : Int
  mtu : Int
  dhcp : Bool
  primaryRack : String := ""
  secondaryRack : String := ""
deriving DecidableEq, Repr

namespace Vlan

/-- The wire fields of a VLAN. -/
@[reducible] def schema : Schema := [
  { name := "resource_uri", shape := .text },
  { name := "id", shape := .number },
  { name := "name", shape := .nullable .text, default := some none },
  { name := "fabric", shape := .text },
  { name := "vid", shape := .number },
  { name := "mtu", shape := .number },
  { name := "dhcp_on", shape := .flag },
  { name := "primary_rack", shape := .nullable .text, default := some none },
  { name := "secondary_rack", shape := .nullable .text, default := some none }]

/-- The VLAN of a row. -/
def ofRow : schema.Row → Vlan
  | (resourceUri, id, name, fabric, vid, mtu, dhcp, primaryRack, secondaryRack, ()) =>
    { resourceUri, id, name := name.getD "", fabric, vid, mtu, dhcp,
      primaryRack := primaryRack.getD "", secondaryRack := secondaryRack.getD "" }

/-- Reads VLANs. -/
def reader : Reader Vlan := .ofSchema "vlan" schema fun row _ => .ok (ofRow row)

/-- The row of a VLAN. -/
def toRow (v : Vlan) : schema.Row :=
  (v.resourceUri, v.id, some v.name, v.fabric, v.vid, v.mtu, v.dhcp, some v.primaryRack,
    some v.secondaryRack, ())

/-- The wire form of a VLAN, with every field written. -/
def toEntries (v : Vlan) : Entries Datum := schema.writeEntries v.toRow

end Vlan

end BareMetal
