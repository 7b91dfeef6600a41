/-
# Tags

Tags are put on machines by hand or by a definition.
-/

import BareMetal.Reader

namespace BareMetal

/-- A tag. -/
structure Tag where
  resourceUri : String
  name : String
  comment : String := ""
  definition : String := ""
  kernelOpts : String := ""
deriving DecidableEq, Repr

namespace Tag

/-- The wire fields of a tag. Older controllers leave out what describes it. -/
@[reducible] def schema : Schema := [
  { name := "resource_uri", shape := .text },
  { name := "name", shape := .text },
  { name := "comment", shape := .text, default := some "" },
  { name := "definition", shape := .text, default := some "" },
  { name := "kernel_opts", shape := .text, default := some "" }]

/-- The tag of a row. -/
def ofRow : schema.Row → Tag
  | (resourceUri, name, comment, definition, kernelOpts, ()) =>
    { resourceUri, name, comment, definition, kernelOpts }

/-- Reads tags. -/
def reader : Reader Tag := .ofSchema "tag" schema fun row _ => .ok (ofRow row)

/-- The row of a tag. -/
def toRow (t : Tag) : schema.Row :=
  (t.resourceUri, t.name, t.comment, t.definition, t.kernelOpts, ())

/-- The wire form of a tag, with every field written. -/
def toEntries (t : Tag) : Entries Datum := schema.writeEntries t.toRow

end Tag

end BareMetal
