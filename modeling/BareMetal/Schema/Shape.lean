/-
# Shapes

A shape says what a value has to look like and what is read from it. Reading is
strict: a value is taken only in the form that the shape names, apart from these
liberties.

| shape | also takes |
| --- | --- |
| `number` | a finite floating-point number, cut to its whole part; a text that is a numeral of a whole or a finite number |
| `size` | what `number` takes, if it is not negative |
| `nullable` | null, as nothing |
| `prepared p` | what the preparation `p` turns into a value of the shape |

Lists are read from the first item on and maps from the first entry on; the first
mismatch is the result.
-/

import BareMetal.Number.Numeral
import BareMetal.Schema.Mismatch

namespace BareMetal

/-- What is done to a value before it is read. -/
inductive Preparation where
  /-- Null stands for a given value. -/
  | nullAs (value : Datum)
  /-- The texts `true` and `false`, in any case, stand for the flags. -/
  | wordAsFlag
  /-- Null and every map stand for the empty text. -/
  | settingsAsEmpty
deriving Repr

/-- A value after a preparation. -/
def Preparation.apply : Preparation → Datum → Datum
  | nullAs value, .null => value
  | wordAsFlag, .text s =>
    if Text.spells "true" s then .bool true
    else if Text.spells "false" s then .bool false
    else .text s
  | settingsAsEmpty, .null => .text ""
  | settingsAsEmpty, .map _ => .text ""
  | _, d => d

/-- What a value has to look like. -/
inductive Shape where
  /-- Any value at all. -/
  | any
  | text
  | flag
  | number
  | size
  | list (item : Shape)
  | map (value : Shape)
  | nullable (shape : Shape)
  | prepared (preparation : Preparation) (shape : Shape)
deriving Repr

namespace Shape

/-- An untyped map. -/
abbrev object : Shape := map any

/-- A list of untyped maps. -/
abbrev objects : Shape := list object

/-- A text that may be null, which is then empty. -/
abbrev textOrEmpty : Shape := prepared (.nullAs (.text "")) text

/-- What is read from a value of a shape. -/
@[reducible] def Carrier : Shape → Type
  | any => Datum
  | text => String
  | flag => Bool
  | number => Int
  | size => Nat
  | list item => List item.Carrier
  | map value => Entries value.Carrier
  | nullable shape => Option shape.Carrier
  | prepared _ shape => shape.Carrier

/-- The whole number that a floating-point number stands for; `source` is the
value that it came from. -/
def truncated (source : Datum) (x : Binary64) : Except Mismatch Int :=
  match x.truncate? with
  | some n => .ok n
  | none => .error { expected := .finiteNumber, got := source }

/-- Reads a whole number. -/
def readNumber : Datum → Except Mismatch Int
  | .int n => .ok n
  | .float x => truncated (.float x) x
  | .text s =>
    match Numeral.int? s with
    | some n => .ok n
    | none =>
      match Numeral.float? s with
      | some x => truncated (.text s) x
      | none => .error { expected := .number, got := .text s }
  | d => .error { expected := .number, got := d }

/-- Reads a whole number that is not negative. A negative one is reported as the
whole number that it was read as. -/
def readSize (d : Datum) : Except Mismatch Nat :=
  match readNumber d with
  | .error m => .error m
  | .ok (.ofNat n) => .ok n
  | .ok n => .error { expected := .unsignedNumber, got := .int n }

/-- Reads the items of a list, the first of which has the index `i`. -/
def readItems {α : Type} (read : Datum → Except Mismatch α) (i : Nat) :
    List Datum → Except Mismatch (List α)
  | [] => .ok []
  | d :: ds =>
    match read d with
    | .error m => .error (m.under (.index i))
    | .ok v => (readItems read (i + 1) ds).map (v :: ·)

/-- Reads the values of the entries of a map. -/
def readEntries {α : Type} (read : Datum → Except Mismatch α) :
    Entries Datum → Except Mismatch (Entries α)
  | [] => .ok []
  | (k, d) :: es =>
    match read d with
    | .error m => .error (m.under (.name k))
    | .ok v => (readEntries read es).map ((k, v) :: ·)

/-- Reads a value of a shape. -/
def read : (s : Shape) → Datum → Except Mismatch s.Carrier
  | any, d => .ok d
  | text, .text s => .ok s
  | text, d => .error { expected := .text, got := d }
  | flag, .bool b => .ok b
  | flag, d => .error { expected := .flag, got := d }
  | number, d => readNumber d
  | size, d => readSize d
  | list item, .list ds => readItems item.read 0 ds
  | list _, d => .error { expected := .list, got := d }
  | map value, .map es => readEntries value.read es
  | map _, d => .error { expected := .map, got := d }
  | nullable _, .null => .ok none
  | nullable shape, d => (shape.read d).map some
  | prepared p shape, d => shape.read (p.apply d)

/-- The plainest value that a value of a shape is read from. -/
def write : (s : Shape) → s.Carrier → Datum
  | any, d => d
  | text, s => .text s
  | flag, b => .bool b
  | number, n => .int n
  | size, n => .int n
  | list item, vs => .list (vs.map item.write)
  | map value, es => .map (es.map fun e => (e.1, value.write e.2))
  | nullable _, none => .null
  | nullable shape, some v => shape.write v
  | prepared _ shape, v => shape.write v

end Shape
end BareMetal
