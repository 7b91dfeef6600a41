/-
# DNS domains

A DNS domain. Whether the controller answers for it is a flag or the word for one.
-/

import BareMetal.Reader

namespace BareMetal

/-- A DNS domain. -/
structure Domain where
  resourceUri : String
  id : Int
  name : String
  ttl : Option Int := none
  authoritative : Bool := false
  resourceRecordCount : Int := 0
deriving DecidableEq, Repr

namespace Domain

/-- The wire fields of a domain. Some controllers send the flag as a word. -/
@[reducible] def schema : Schema := [
  { name := "resource_uri", shape := .text },
  { name := "id", shape := .number },
  { name := "name", shape := .text },
  { name := "ttl", shape := .nullable .number, default := some none },
  { name := "authoritative", shape := .prepared .wordAsFlag .flag, default := some false },
  { name := "resource_record_count", shape := .number, default := some (0 : Int) }]

/-- The domain of a row. -/
def ofRow : schema.Row → Domain
  | (resourceUri, id, name, ttl, authoritative, resourceRecordCount, ()) =>
    { resourceUri, id, name, ttl, authoritative, resourceRecordCount }

/-- Reads domains. -/
def reader : Reader Domain := .ofSchema "domain" schema fun row _ => .ok (ofRow row)

/-- The row of a domain. -/
def toRow (d : Domain) : schema.Row :=
  (d.resourceUri, d.id, d.name, d.ttl, d.authoritative, d.resourceRecordCount, ())

/-- The wire form of a domain, with every field written. -/
def toEntries (d : Domain) : Entries Datum := schema.writeEntries d.toRow

end Domain

end BareMetal
