/-
# Boot resources

The sub-architectures of a boot resource are sent as one text: names with commas
between them, with spacing around them, and in any order. They are kept as a set.
-/

import BareMetal.NameSet
import BareMetal.Reader
import BareMetal.Text.Blank

namespace BareMetal

/-- A boot image. -/
structure BootResource where
  resourceUri : String
  id : Int
  name : String
  type : String
  architecture : String
  subarches : NameSet := .empty
  kernelFlavor : String := ""
deriving DecidableEq, Repr

namespace BootResource

/-- The names in a list with commas between them: the pieces without the spacing
around them, as far as something is left. -/
def subarchNames (list : String) : List String :=
  ((Text.split ',' list.toList).map (Text.trim Text.isSpacing)).filterMap fun piece =>
    if piece.isEmpty then none else some (String.ofList piece)

/-- The wire fields of a boot resource. -/
@[reducible] def schema : Schema := [
  { name := "resource_uri", shape := .text },
  { name := "id", shape := .number },
  { name := "name", shape := .text },
  { name := "type", shape := .text },
  { name := "architecture", shape := .text },
  { name := "subarches", shape := .text, default := some "" },
  { name := "kflavor", shape := .text, default := some "" }]

/-- The boot resource of a row. -/
def ofRow : schema.Row → BootResource
  | (resourceUri, id, name, type, architecture, subarches, kernelFlavor, ()) =>
    { resourceUri, id, name, type, architecture,
      subarches := .ofList (subarchNames subarches), kernelFlavor }

/-- Reads boot resources. -/
def reader : Reader BootResource :=
  .ofSchema "boot resource" schema fun row _ => .ok (ofRow row)

/-- The row of a boot resource. -/
def toRow (b : BootResource) : schema.Row :=
  (b.resourceUri, b.id, b.name, b.type, b.architecture, ",".intercalate b.subarches.names,
    b.kernelFlavor, ())

/-- The wire form of a boot resource, with every field written. -/
def toEntries (b : BootResource) : Entries Datum := schema.writeEntries b.toRow

end BootResource

end BareMetal
