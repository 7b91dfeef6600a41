/-
# Untyped values

A `Datum` is a value as it comes over the wire: one of the six forms of JSON,
with whole numbers and floating-point numbers apart, or a string of raw bytes.
A map keeps the order of its entries.
-/

import BareMetal.Entries
import BareMetal.Number.Binary64

namespace BareMetal

/-- An untyped value. -/
inductive Datum where
  | null
  | bool (b : Bool)
  | int (n : Int)
  | float (x : Binary64)
  | text (s : String)
  | bytes (bs : List UInt8)
  | list (items : List Datum)
  | map (entries : List (String × Datum))
deriving Repr, BEq, Inhabited

namespace Datum

mutual

/-- No byte string occurs in the value, at any depth. -/
def isJson : Datum → Bool
  | bytes _ => false
  | list items => isJsonList items
  | map entries => isJsonEntries entries
  | _ => true

/-- No byte string occurs in the values. -/
def isJsonList : List Datum → Bool
  | [] => true
  | d :: ds => d.isJson && isJsonList ds

/-- No byte string occurs in the entries. -/
def isJsonEntries : List (String × Datum) → Bool
  | [] => true
  | (_, d) :: es => d.isJson && isJsonEntries es

end

/-- The name of a value's form, as messages call it. -/
def formName : Datum → String
  | null => "nothing"
  | bool _ => "bool"
  | int _ => "int"
  | float _ => "float"
  | text _ => "string"
  | bytes _ => "bytes"
  | list _ => "list"
  | map _ => "map"

end Datum
end BareMetal
