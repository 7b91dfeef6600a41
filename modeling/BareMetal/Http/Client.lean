/-
# Clients

A client sends requests to one version of the interface of one controller. A
path is resolved against `base/api/version/`. The operation of a request is the
query parameter `op`; the parameters of a `POST` are its form, those of any other
request belong to the query.

| reply | result |
| --- | --- |
| none | the transport's failure, with a record in the log |
| status 400 to 599 | a `server` failure with the body's text |
| no content | null |
| JSON | its value |
| anything else | a `deserialization` failure |

A body is UTF-8; what is not is replaced, and so is half of a surrogate pair that its JSON
escapes (`Json.ofCode`).
-/

import BareMetal.Http.Exchange
import BareMetal.Json.Parser
import BareMetal.Text.Utf8
import BareMetal.Url.Join
import BareMetal.Url.Reference

namespace BareMetal

/-- A fault in JSON as a failure. -/
def Failure.ofJson (fault : Json.Fault) : Failure :=
  match fault with
  | .malformed .. => .plain .malformedJson fault.message
  | .longNumeral _ => .invalid fault.message

namespace Client

/-- The logger of clients. -/
def logger : String := "maasapi.api_client"

/-- The URL that paths are resolved against. -/
def apiUrl (c : Client) : String := Url.join c.baseUrl ["api", c.apiVersion]

/-- The URL of a path or of a resource. -/
def urlFor (c : Client) (path : String) : Except Failure String :=
  match Url.resolve c.apiUrl.toList path.toList with
  | .ok url => .ok (String.ofList url)
  | .error fault => .error (.invalid fault.message)

/-- The value of a body. -/
def readBody (path : String) (body : List UInt8) : Except Failure Datum :=
  if body.isEmpty then .ok .null
  else
    (Json.parse (Text.readUtf8 body)).mapError fun fault =>
      .deserialization s!"invalid JSON response for {path}" (.ofJson fault)

/-- The value of a response. -/
def readResponse (path : String) (r : Response) : Except Failure Datum :=
  if r.isRefusal then
    .error (.server r.status r.reason (String.ofList (Text.readUtf8 r.body)))
  else readBody path r.body

/-- The value of a reply; a missing one is recorded in the log. -/
def receive (path : String) : Reply → Exchange Datum
  | .fault t message => do
    Exchange.log .error logger s!"✗ API request failed for {path}: {message}"
    Exchange.fail (.plain (.transport t) message)
  | .response r => Exchange.ofExcept (readResponse path r)

/-- The query of a request with an operation. -/
def withOperation (op : String) (params : Params) : Params :=
  if op.isEmpty then params else params.put "op" (.text op)

/-- Sends a request with a query and a form. -/
def request (c : Client) (verb : Verb) (path : String) (op : String) (query : Params)
    (form : Option Params) : Exchange Datum := do
  let url ← Exchange.ofExcept (c.urlFor path)
  let reply ← Exchange.send
    { verb, url, query := withOperation op query, form, timeout := c.timeout, verify := c.verify }
  receive path reply

/-- Sends a `GET` request. -/
def get (c : Client) (path : String) (op : String := "") (params : Option Params := none) :
    Exchange Datum :=
  c.request .get path op (params.getD []) none

/-- Sends a `POST` request. -/
def post (c : Client) (path : String) (op : String := "") (params : Option Params := none) :
    Exchange Datum :=
  c.request .post path op [] params

/-- Sends a `DELETE` request. -/
def delete (c : Client) (path : String) : Exchange Unit := do
  let _ ← c.request .delete path "" [] none
  return ()

/-- Creates the client, which stays open until it is closed. -/
def create (c : Client) : Exchange Unit := Exchange.emit (.create c)

/-- Closes the client. -/
def close (c : Client) : Exchange Unit := Exchange.emit (.close c)

end Client
end BareMetal
