/-
# Spaces

A space comes with its VLANs and its subnets.
-/

import BareMetal.Network.Subnet

namespace BareMetal

/-- A network space. -/
structure Space where
  resourceUri : String
  id : Int
  name : String
  classType : String := ""
  vlans : List Vlan := []
  subnets : List Subnet := []
deriving DecidableEq, Repr

namespace Space

/-- The wire fields of a space. -/
@[reducible] def schema : Schema := [
  { name := "resource_uri", shape := .text },
  { name := "id", shape := .number },
  { name := "name", shape := .text },
  { name := "class_type", shape := .nullable .text, default := some none },
  { name := "vlans", shape := .objects, default := some [] },
  { name := "subnets", shape := .objects, default := some [] }]

/-- The space of a row. -/
def ofRow : schema.Row → Version → Except Failure Space
  | (resourceUri, id, name, classType, vlans, subnets, ()), version => do
    let vlans ← Vlan.reader.readInnerList version vlans
    let subnets ← Subnet.reader.readInnerList version subnets
    return { resourceUri, id, name, classType := classType.getD "", vlans, subnets }

/-- Reads spaces. -/
def reader : Reader Space := .ofSchema "space" schema ofRow

/-- The row of a space. -/
def toRow (s : Space) : schema.Row :=
  (s.resourceUri, s.id, s.name, some s.classType, s.vlans.map Vlan.toEntries,
    s.subnets.map Subnet.toEntries, ())

/-- The wire form of a space, with every field written. -/
def toEntries (s : Space) : Entries Datum := schema.writeEntries s.toRow

end Space

end BareMetal
