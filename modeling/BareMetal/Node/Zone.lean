/-
# Zones

Machines and devices are in zones, so that some can be chosen apart from others.
-/

import BareMetal.Reader

namespace BareMetal

/-- An availability zone. -/
structure Zone where
  resourceUri : String
  name : String
  description : String
deriving DecidableEq, Repr

namespace Zone

/-- The wire fields of a zone. -/
@[reducible] def schema : Schema := [
  { name := "resource_uri", shape := .text },
  { name := "name", shape := .text },
  { name := "description", shape := .text }]

/-- The zone of a row. -/
def ofRow : schema.Row → Zone
  | (resourceUri, name, description, ()) => { resourceUri, name, description }

/-- Reads zones. -/
def reader : Reader Zone := .ofSchema "zone" schema fun row _ => .ok (ofRow row)

/-- The row of a zone. -/
def toRow (z : Zone) : schema.Row :=
  (z.resourceUri, z.name, z.description, ())

/-- The wire form of a zone, with every field written. -/
def toEntries (z : Zone) : Entries Datum := schema.writeEntries z.toRow

end Zone

end BareMetal
