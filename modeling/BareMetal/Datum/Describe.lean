/-
# Values in messages

A value is shown in a message as the name of its form and, in parentheses, its
JSON text; null is shown as `nothing`. A value with a byte string somewhere in
it has no JSON text and is shown as a literal instead:

| value | literal |
| --- | --- |
| null, true, false | `None`, `True`, `False` |
| text, bytes | quoted |
| float | the shortest decimal, `inf`, `nan` |
| list, map | `[a, b]`, `\x7b'k': v\x7d` |

A whole number is shown in full. It is taken to have no more digits than a numeral
may have, as one that was read has; a longer one has no text (`Numeral.write`).
-/

import BareMetal.Json.Printer

namespace BareMetal
namespace Datum

mutual

/-- The literal of a value. -/
def literal : Datum → List Char
  | null => "None".toList
  | bool b => (if b then "True" else "False").toList
  | int n => Json.renderInt n
  | float x => x.text.toList
  | text s => (Text.quoted s).toList
  | bytes bs => (Text.quotedBytes bs).toList
  | list items => '[' :: literalItems items ++ [']']
  | map entries => '\x7b' :: literalEntries entries ++ ['\x7d']

/-- The literals of the items of a list with the commas between them. -/
def literalItems : List Datum → List Char
  | [] => []
  | [d] => d.literal
  | d :: ds => d.literal ++ ',' :: ' ' :: literalItems ds

/-- The literals of the entries of a map with the commas between them. -/
def literalEntries : List (String × Datum) → List Char
  | [] => []
  | [(k, d)] => (Text.quoted k).toList ++ ':' :: ' ' :: d.literal
  | (k, d) :: es =>
    (Text.quoted k).toList ++ ':' :: ' ' :: (d.literal ++ ',' :: ' ' :: literalEntries es)

end

/-- A value as a message shows it. -/
def describe (d : Datum) : String :=
  match d with
  | null => "nothing"
  | _ =>
    let shown := if d.isJson then Json.render d else d.literal
    s!"{d.formName}({String.ofList shown})"

end Datum
end BareMetal
