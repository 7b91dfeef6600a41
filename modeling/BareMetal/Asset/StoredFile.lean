/-
# Stored files

The content of a file is kept in base64 and is read strictly.
-/

import BareMetal.Reader
import BareMetal.Text.Base64

namespace BareMetal

/-- A fault in base64 as a failure. -/
def Failure.ofBase64 (fault : Text.Base64.Fault) : Failure :=
  match fault with
  | .notAscii => .invalid fault.message
  | _ => .plain .malformedBase64 fault.message

/-- A stored file. The content is base64 and is empty in listings. -/
structure StoredFile where
  resourceUri : String
  filename : String
  anonResourceUri : String
  content : String := ""
deriving DecidableEq, Repr

namespace StoredFile

/-- The bytes of a stored file. -/
def bytes (f : StoredFile) : Except Failure (List UInt8) :=
  (Text.Base64.decode f.content.toList).mapError .ofBase64

/-- The wire fields of a stored file. Listings leave out the content. -/
@[reducible] def schema : Schema := [
  { name := "resource_uri", shape := .text },
  { name := "filename", shape := .text },
  { name := "anon_resource_uri", shape := .text },
  { name := "content", shape := .text, default := some "" }]

/-- The stored file of a row. -/
def ofRow : schema.Row → StoredFile
  | (resourceUri, filename, anonResourceUri, content, ()) =>
    { resourceUri, filename, anonResourceUri, content }

/-- Reads stored files. -/
def reader : Reader StoredFile := .ofSchema "file" schema fun row _ => .ok (ofRow row)

/-- The row of a stored file. -/
def toRow (f : StoredFile) : schema.Row :=
  (f.resourceUri, f.filename, f.anonResourceUri, f.content, ())

/-- The wire form of a stored file, with every field written. -/
def toEntries (f : StoredFile) : Entries Datum := schema.writeEntries f.toRow

end StoredFile

end BareMetal
