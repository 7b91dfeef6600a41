/-
# Fabrics

A fabric comes with its VLANs.
-/

import BareMetal.Network.Vlan

namespace BareMetal

/-- A fabric with its VLANs. -/
structure Fabric where
  resourceUri : String
  id : Int
  name : String
  classType : String := ""
  vlans : List Vlan := []
deriving DecidableEq, Repr

namespace Fabric

/-- The wire fields of a fabric. -/
@[reducible] def schema : Schema := [
  { name := "resource_uri", shape := .text },
  { name := "id", shape := .number },
  { name := "name", shape := .text },
  { name := "class_type", shape := .nullable .text, default := some none },
  { name := "vlans", shape := .objects }]

/-- The fabric of a row. -/
def ofRow : schema.Row → Version → Except Failure Fabric
  | (resourceUri, id, name, classType, vlans, ()), version => do
    let vlans ← Vlan.reader.readInnerList version vlans
    return { resourceUri, id, name, classType := classType.getD "", vlans }

/-- Reads fabrics. -/
def reader : Reader Fabric := .ofSchema "fabric" schema ofRow

/-- The row of a fabric. -/
def toRow (f : Fabric) : schema.Row :=
  (f.resourceUri, f.id, f.name, some f.classType, f.vlans.map Vlan.toEntries, ())

/-- The wire form of a fabric, with every field written. -/
def toEntries (f : Fabric) : Entries Datum := schema.writeEntries f.toRow

end Fabric

end BareMetal
