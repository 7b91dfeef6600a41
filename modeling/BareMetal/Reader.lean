/-
# Entity readers

A reader turns untyped values into entities of one kind at a version of the
interface. Its decoders are declared per version and get the entries of a map and
the target version, so that entities inside it are read at the same version.

A single entity is a map, several are a list of maps. That outer form is checked
first, then the version, then the entity itself:

| failure | message |
| --- | --- |
| outer form | `kind base schema check failed: mismatch` |
| no decoder | `no kind read func for version v` |
| the entity's own fields | `kind 2.0 schema check failed: mismatch` |
| item `i` of a list | `kind i: ` and the failure of the item |

The first item of a list that fails decides.
-/

import BareMetal.Version.Registry
import BareMetal.Schema.Row

namespace BareMetal

/-- Reads an entity from the entries of a map at a version. -/
abbrev Decoder (α : Type) := Entries Datum → Version → Except Failure α

/-- A reader of one kind of entity. -/
structure Reader (α : Type) where
  kind : String
  registry : Registry (Decoder α)

namespace Reader

variable {α : Type}

/-- A failure of the outer form. -/
def baseFailure (kind : String) (m : Mismatch) : Failure :=
  .deserialization s!"{kind} base schema check failed" (.ofMismatch m)

/-- A failure of an entity's own fields, by the schema of a declared version. -/
def schemaFailure (kind label : String) (m : Mismatch) : Failure :=
  .deserialization s!"{kind} {label} schema check failed" (.ofMismatch m)

/-- Checks the entries of a map against the schema of a declared version. -/
def check (kind label : String) (schema : Schema) (entries : Entries Datum) :
    Except Failure schema.Row :=
  (schema.readEntries entries).mapError (schemaFailure kind label)

/-- The entries of a single entity. -/
def entriesOf (r : Reader α) (source : Datum) : Except Failure (Entries Datum) :=
  (Shape.object.read source).mapError (baseFailure r.kind)

/-- The entries of several entities. -/
def itemsOf (r : Reader α) (source : Datum) : Except Failure (List (Entries Datum)) :=
  (Shape.objects.read source).mapError (baseFailure r.kind)

/-- Reads the items of a list, the first of which has the index `i`. -/
def decodeItems (kind : String) (decode : Decoder α) (version : Version) (i : Nat) :
    List (Entries Datum) → Except Failure (List α)
  | [] => .ok []
  | item :: items =>
    match decode item version with
    | .error e => .error (e.annotate s!"{kind} {i}")
    | .ok x => (decodeItems kind decode version (i + 1) items).map (x :: ·)

/-- Reads an entity at a version that may itself be in fault, which is found out
after the outer form. -/
def readAt (r : Reader α) (version : Except Failure Version) (source : Datum) :
    Except Failure α := do
  let entries ← r.entriesOf source
  let version ← version
  let decode ← r.registry.resolve version
  decode entries version

/-- Reads a list of entities at a version that may itself be in fault. -/
def readListAt (r : Reader α) (version : Except Failure Version) (source : Datum) :
    Except Failure (List α) := do
  let items ← r.itemsOf source
  let version ← version
  let decode ← r.registry.resolve version
  decodeItems r.kind decode version 0 items

/-- Reads an entity. -/
def read (r : Reader α) (version : Version) (source : Datum) : Except Failure α :=
  r.readAt (.ok version) source

/-- Reads a list of entities. -/
def readList (r : Reader α) (version : Version) (source : Datum) : Except Failure (List α) :=
  r.readListAt (.ok version) source

/-- Reads an entity, or nothing from null, at a version that may be in fault. -/
def readOptionalAt (r : Reader α) (version : Except Failure Version) :
    Datum → Except Failure (Option α)
  | .null => .ok none
  | source => (r.readAt version source).map some

/-- Reads a list of entities, empty for null, at a version that may be in fault. -/
def readOptionalListAt (r : Reader α) (version : Except Failure Version) :
    Datum → Except Failure (List α)
  | .null => .ok []
  | source => r.readListAt version source

/-- Reads an entity inside another one. -/
def readInner (r : Reader α) (version : Version) (entries : Entries Datum) : Except Failure α :=
  r.read version (.map entries)

/-- Reads an entity inside another one that may lack it. -/
def readInnerOptional (r : Reader α) (version : Version) :
    Option (Entries Datum) → Except Failure (Option α)
  | none => .ok none
  | some entries => (r.readInner version entries).map some

/-- Reads the entities of a list inside another entity. -/
def readInnerList (r : Reader α) (version : Version) (items : List (Entries Datum)) :
    Except Failure (List α) :=
  r.readList version (.list (items.map .map))

/-- A reader with one decoder, declared at version 2.0: the fields are checked
against a schema, and an entity is made of what was read. -/
def ofSchema (kind : String) (schema : Schema)
    (make : schema.Row → Version → Except Failure α) : Reader α where
  kind := kind
  registry := Registry.insert { kind := kind } { release := [2, 0] } fun entries version => do
    let row ← check kind "2.0" schema entries
    make row version

end Reader
end BareMetal
