/-
# Schemas

A schema is a list of fields, each with a name, a shape and perhaps a default. A
map is read field by field in the order of the schema.

* Entries that the schema does not name are passed over.
* A field that is absent has its default; without a default it is read as null,
  so that only a shape that takes null tolerates its absence.
* A default takes the place of an absent entry only: null is read as null.
-/

import BareMetal.Schema.Shape

namespace BareMetal

/-- A field of a schema. -/
structure Field where
  name : String
  shape : Shape
  default : Option shape.Carrier := none

/-- The fields that are read from a map, in order. -/
abbrev Schema := List Field

/-- Reads a field from the entries of a map. -/
def Field.read (f : Field) (entries : Entries Datum) : Except Mismatch f.shape.Carrier :=
  match entries.get? f.name, f.default with
  | some d, _ => (f.shape.read d).mapError (·.under (.name f.name))
  | none, some v => .ok v
  | none, none => (f.shape.read .null).mapError (·.under (.name f.name))

namespace Schema

/-- What is read by a schema: a value for each field. -/
@[reducible] def Row : Schema → Type
  | [] => Unit
  | f :: fs => f.shape.Carrier × Row fs

/-- Reads the fields from the entries of a map. -/
def readEntries : (s : Schema) → Entries Datum → Except Mismatch s.Row
  | [], _ => .ok ()
  | f :: fs, entries =>
    match f.read entries with
    | .error m => .error m
    | .ok v => (readEntries fs entries).map (v, ·)

/-- Reads a map by a schema. -/
def read (s : Schema) : Datum → Except Mismatch s.Row
  | .map entries => s.readEntries entries
  | d => .error { expected := .map, got := d }

/-- The entries of a row, in the order of the schema. -/
def writeEntries : (s : Schema) → s.Row → Entries Datum
  | [], _ => []
  | f :: fs, (v, row) => (f.name, f.shape.write v) :: writeEntries fs row

end Schema
end BareMetal
