/-
# Registries of decoders

A registry holds the decoders of one kind of entity, each declared at a version.
The declared versions are kept in ascending order, beside a table of the decoder
at each of them. The table is looked up by equality of versions, so every
spelling of a version finds the same decoder.

* Declaring a decoder at a version that is there replaces the decoder; the
  version keeps the spelling that it was first declared with.
* A request gets the decoder at the greatest version that is not newer than the
  requested one; if every declared version is newer, it fails.
-/

import BareMetal.Failure
import BareMetal.Json.Parser
import BareMetal.Text.Quoted
import BareMetal.Version.Ascending
import BareMetal.Version.Parser

namespace BareMetal

/-- The version that a text spells, or the failure that reports a text that
spells none. -/
def Version.ofText (text : String) : Except Failure Version :=
  match Version.parse text with
  | .ok v => .ok v
  | .error .notAVersion =>
    .error (.plain .unsupportedVersion s!"invalid API version {Text.quoted text}")
  | .error (.longNumeral digits) => .error (.invalid (Json.longNumeralMessage digits))

/-- Decoders by the version that each is declared at. -/
abbrev DecoderTable (δ : Type) := List (Version × δ)

namespace DecoderTable

variable {δ : Type}

/-- The decoder at a version, however the version is spelled. -/
def get? (v : Version) : DecoderTable δ → Option δ
  | [] => none
  | (w, d) :: table => if w.Same v then some d else get? v table

/-- Writes the decoder at a version: in place if the version is there, else at the
end. -/
def put (v : Version) (d : δ) : DecoderTable δ → DecoderTable δ
  | [] => [(v, d)]
  | (w, e) :: table => if w.Same v then (w, d) :: table else (w, e) :: put v d table

/-- The versions that have a decoder. -/
def versions (table : DecoderTable δ) : List Version := table.map Prod.fst

end DecoderTable

/-- The decoders of one kind of entity. -/
structure Registry (δ : Type) where
  kind : String
  /-- The declared versions, in ascending order. -/
  versions : List Version := []
  decoders : DecoderTable δ := []

namespace Registry

variable {δ : Type}

/-- A decoder is declared at the version. -/
def contains (r : Registry δ) (v : Version) : Bool := (r.decoders.get? v).isSome

/-- Declares a decoder at a version. -/
def insert (r : Registry δ) (v : Version) (d : δ) : Registry δ :=
  { r with
    versions := if r.contains v then r.versions else Version.insertAscending r.versions v
    decoders := r.decoders.put v d }

/-- Declares a decoder at the version that a text spells. -/
def register (r : Registry δ) (version : String) (d : δ) : Except Failure (Registry δ) :=
  (Version.ofText version).map (r.insert · d)

/-- How many versions are declared. -/
def size (r : Registry δ) : Nat := r.versions.length

/-- The greatest declared version that is not newer than the target. -/
def newest? (r : Registry δ) (target : Version) : Option Version :=
  match Version.place r.versions target with
  | 0 => none
  | i + 1 => r.versions[i]?

/-- The decoder for a target version. -/
def resolve (r : Registry δ) (target : Version) : Except Failure δ :=
  match r.newest? target with
  | none =>
    .error (.plain .unsupportedVersion
      s!"no {r.kind} read func for version {target.releaseText}")
  | some v =>
    match r.decoders.get? v with
    | some d => .ok d
    | none => .error (.plain .missing s!"no {r.kind} decoder at version {v.text}")

end Registry
end BareMetal
