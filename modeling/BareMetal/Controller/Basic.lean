/-
# Controllers

A controller is a client together with the version of the interface that was
agreed on and the capabilities that the server names.

To connect, the versions are tried in order until one answers with its
capabilities. A version that fails has its client closed, and the last failure
is the cause of the failure to connect. A failure that comes from the arguments
and not from the controller ends the attempt at once.
-/

import BareMetal.Controller.Operation

namespace BareMetal

/-- A controller at an agreed version of its interface. -/
structure Controller where
  client : Client
  version : Version
  capabilities : NameSet
deriving Repr

/-- The versions of the interface that are tried, the most preferred first. -/
def supportedVersions : List String := ["2.0"]

namespace Controller

/-- The logger of controllers. -/
def logger : String := "maasapi.controller"

/-- The wire fields of the version resource. -/
@[reducible] def versionSchema : Schema := [{ name := "capabilities", shape := .list .text }]

/-- The capabilities in the value of the version resource. -/
def capabilitiesOf (source : Datum) : Except Failure NameSet :=
  match versionSchema.read source with
  | .ok (names, ()) => .ok (.ofList names)
  | .error m => .error (.deserialization "version response" (.ofMismatch m))

/-- Asks the server for its capabilities. -/
def readCapabilities (client : Client) : Exchange NameSet := do
  let source ← client.get "version/"
  Exchange.ofExcept (capabilitiesOf source)

/-- A controller for a client. -/
def ofClient (client : Client) (version : String) (capabilities : NameSet) :
    Except Failure Controller :=
  (Version.ofText version).map fun version => { client, version, capabilities }

/-- The failure to connect, caused by the last failure. -/
def connectFailure (last : Option Failure) : Failure :=
  let message := "unable to create authenticated client"
  match last with
  | some e => .caused .general message e
  | none => .plain .general message

/-- The failure leaves hope for another version. -/
def isNegotiable (e : Failure) : Bool := e.kind.isReported || e.kind.isTransport

/-- The client that is created for a version. -/
def clientFor (baseUrl : String) (timeout : Option Quantity) (verify : Bool) (version : String) :
    Client :=
  { baseUrl, apiVersion := version, timeout, verify }

/-- Tries the versions in order; `last` is the failure of the version before. -/
def tryVersions (baseUrl : String) (timeout : Option Quantity) (verify : Bool)
    (last : Option Failure) : List String → Exchange Controller
  | [] => Exchange.fail (connectFailure last)
  | version :: versions => do
    let client := clientFor baseUrl timeout verify version
    client.create
    match ← (readCapabilities client).attempt with
    | .ok capabilities =>
      Exchange.log .info logger s!"✓ Connected to {baseUrl} using API {version}"
      Exchange.ofExcept (ofClient client version capabilities)
    | .error e =>
      if isNegotiable e then
        client.close
        tryVersions baseUrl timeout verify (some e) versions
      else Exchange.fail e

/-- The versions that are tried for the given ones: without any, the supported
ones. -/
def candidates (versions : List String) : List String :=
  if versions.isEmpty then supportedVersions else versions

/-- Connects to a controller. -/
def connect (baseUrl : String) (versions : List String := [])
    (timeout : Option Quantity := some (.whole 30)) (verify : Bool := true) :
    Exchange Controller :=
  tryVersions baseUrl timeout verify none (candidates versions)

/-- Sends the request of a plan. -/
def send (c : Controller) {α : Type} (p : Plan α) : Exchange Datum :=
  match p.verb with
  | .get => c.client.get p.path p.op p.params
  | .post => c.client.post p.path p.op p.params
  | .delete => do
    c.client.delete p.path
    return .null

/-- Carries out a plan. -/
def carryOut (c : Controller) {α : Type} (p : Plan α) : Exchange α := do
  let source ← (c.send p).mapFailure (·.translate p.statuses)
  let result ← Exchange.ofExcept (p.decode c.version source)
  match p.record result with
  | some message => Exchange.log .info logger message
  | none => pure ()
  return result

/-- Carries out an operation. -/
def perform (c : Controller) {α : Type} (op : Operation α) : Exchange α := do
  let plan ← Exchange.ofExcept op.plan
  c.carryOut plan

end Controller
end BareMetal
