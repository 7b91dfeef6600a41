/-
# Recorded replies

A reply can be kept as a line of JSON. A response is a map with the entries
`status`, `reason` and `body`, of which the first two may be absent; a reply
that did not come is a map with the entries `fault`, which names the class of the
failure, and `message`. An entry `value` that is true says that the class is also
one of bad values:

    \x7b"status": 404, "reason": "Not Found", "body": "no such machine"\x7d
    \x7b"fault": "Timeout", "message": "no answer in 30 seconds"\x7d
    \x7b"fault": "InvalidSchema", "value": true, "message": "no connection to ftp://host/"\x7d
-/

import BareMetal.Http.Exchange
import BareMetal.Json.Parser

namespace BareMetal

namespace Reply

/-- The reply that a map records. -/
def ofEntries? (entries : Entries Datum) : Option Reply :=
  match entries.get? "fault", entries.get? "message" with
  | some (.text name), some (.text message) =>
    let isBadValue :=
      match entries.get? "value" with
      | some (.bool b) => b
      | _ => false
    some (.fault { name, isBadValue } message)
  | _, _ =>
    let status :=
      match entries.get? "status" with
      | some (.int n) => n
      | _ => 200
    let reason :=
      match entries.get? "reason" with
      | some (.text s) => some s
      | some .null => none
      | _ => some "OK"
    match entries.get? "body" with
    | some (.text s) => some (.response { status, reason, body := s.toUTF8.toList })
    | none => some (.response { status, reason, body := [] })
    | _ => none

/-- The reply that a line records. -/
def ofLine? (line : String) : Option Reply :=
  match Json.parse line.toList with
  | .ok (.map entries) => ofEntries? entries
  | _ => none

end Reply
end BareMetal
