/-
# Plans

A plan says all there is to an operation of a controller: the request, the
statuses that mean something else than usual, how the reply is read, and what
goes into the log. An empty text, an empty list and an absent number or flag ask
for nothing, and nothing is sent for them. A number with too many digits cannot
be asked for.
-/

import BareMetal.Http.Client
import BareMetal.Number.Decimal
import BareMetal.Reader

namespace BareMetal

/-- Everything that an operation does. -/
structure Plan (α : Type) where
  verb : Verb
  path : String
  op : String := ""
  params : Option Params := none
  /-- The statuses that mean something else than usual. -/
  statuses : StatusTable := []
  decode : Version → Datum → Except Failure α
  /-- What goes into the log after success. -/
  record : α → Option String := fun _ => none

namespace Plan

variable {α : Type}

/-- A parameter, unless its text is empty. -/
def given (name text : String) : Params := if text.isEmpty then [] else [(name, .text text)]

/-- A parameter with several values, unless there are none. -/
def givenList (name : String) (texts : List String) : Params :=
  if texts.isEmpty then [] else [(name, .list (texts.map .text))]

/-- A parameter with values joined by commas, unless there are none. -/
def givenJoined (name : String) (texts : List String) : Params :=
  if texts.isEmpty then [] else [(name, .text (",".intercalate texts))]

/-- A whole number as a parameter, in decimal digits. -/
def number (name : String) (n : Int) : Except Failure Params := do
  return [(name, .text (← Numeral.write n))]

/-- The parameters of a query, absent if there are none. -/
def query (params : Params) : Option Params := if params.isEmpty then none else some params

/-- A request that lists entities. -/
def list (reader : Reader α) (path : String) (params : Option Params := none)
    (op : String := "") : Plan (List α) :=
  { verb := .get, path, op, params, decode := reader.readList }

/-- A request that fetches one entity. -/
def fetch (reader : Reader α) (path : String) : Plan α :=
  { verb := .get, path, decode := reader.read }

/-- A request that changes something and yields the new state. -/
def change (reader : Reader α) (path op : String) (params : Params)
    (statuses : StatusTable := []) : Plan α :=
  { verb := .post, path, op, params := some params, statuses, decode := reader.read }

/-- A request that yields nothing. -/
def command (path op : String) (params : Params) (statuses : StatusTable := []) : Plan Unit :=
  { verb := .post, path, op, params := some params, statuses, decode := fun _ _ => .ok () }

end Plan

end BareMetal
