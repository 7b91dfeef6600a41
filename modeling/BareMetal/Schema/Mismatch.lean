/-
# Mismatches

A mismatch says where in a value something else was expected: the form that was
expected, the value found, and the path to it. Its text is

    path: expected form, got value

where the path is `.name` for a name and `[i]` for an index, one after the
other, without the points in front; an empty path and its colon are left out.
-/

import BareMetal.Datum.Describe

namespace BareMetal

/-- A form that a value may be expected to have. -/
inductive Form where
  | text
  | flag
  | number
  | finiteNumber
  | unsignedNumber
  | list
  | map
deriving DecidableEq, Repr

/-- The name of a form in messages. -/
def Form.name : Form → String
  | text => "string"
  | flag => "bool"
  | number => "number"
  | finiteNumber => "finite number"
  | unsignedNumber => "unsigned number"
  | list => "list"
  | map => "map"

/-- One step from a value into it. -/
inductive Step where
  | name (name : String)
  | index (i : Nat)
deriving DecidableEq, Repr

/-- The text of a step. -/
def Step.text : Step → List Char
  | name s => '.' :: s.toList
  | index i => '[' :: Nat.toDigits 10 i ++ [']']

/-- The text of a path, with a colon after it. -/
def pathText : List Step → List Char
  | [] => []
  | path => (path.flatMap Step.text).dropWhile (· = '.') ++ [':', ' ']

/-- A value that has another form than the expected one. -/
structure Mismatch where
  expected : Form
  got : Datum
  path : List Step := []
deriving Repr, BEq

namespace Mismatch

/-- The same mismatch, seen from one step further out. -/
def under (step : Step) (m : Mismatch) : Mismatch := { m with path := step :: m.path }

/-- The text of a mismatch. -/
def message (m : Mismatch) : String :=
  String.ofList (pathText m.path) ++ s!"expected {m.expected.name}, got {m.got.describe}"

end Mismatch
end BareMetal
