/-
# Pools

A machine may be in a pool, which is a set of machines to allocate from.
-/

import BareMetal.Reader

namespace BareMetal

/-- A resource pool. -/
structure Pool where
  resourceUri : String
  name : String
  description : String
deriving DecidableEq, Repr

namespace Pool

/-- The wire fields of a pool. -/
@[reducible] def schema : Schema := [
  { name := "resource_uri", shape := .text },
  { name := "name", shape := .text },
  { name := "description", shape := .text }]

/-- The pool of a row. -/
def ofRow : schema.Row → Pool
  | (resourceUri, name, description, ()) => { resourceUri, name, description }

/-- Reads pools. -/
def reader : Reader Pool := .ofSchema "pool" schema fun row _ => .ok (ofRow row)

/-- The row of a pool. -/
def toRow (p : Pool) : schema.Row :=
  (p.resourceUri, p.name, p.description, ())

/-- The wire form of a pool, with every field written. -/
def toEntries (p : Pool) : Entries Datum := schema.writeEntries p.toRow

end Pool

end BareMetal
