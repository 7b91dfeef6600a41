/-
# Failures

A failure is a fault together with the faults that led to it, nearest first. A
fault has a kind, which callers branch on, and a message.

| kind | arises when |
| --- | --- |
| `general` | no better kind applies |
| `deserialization` | a reply does not have the expected shape |
| `unsupportedVersion` | a version is not a version, or no decoder goes back that far |
| `noMatch`, `badRequest`, `permissionDenied`, `cannotComplete` | the controller refuses a request |
| `unexpected` | it refuses in a way that has no kind of its own |
| `server` | the refusal itself, as it came over the wire |
| `mismatch` | a value does not have the expected shape |
| `malformedJson` | a body is not JSON |
| `transport` | a request got no reply |
| `invalid`, `missing`, `overflow`, `malformedBase64` | an argument cannot be used |

A failure answers to a kind if any fault of its chain is of that kind, so that
context can be added without hiding what went wrong.
-/

import BareMetal.Schema.Mismatch
import BareMetal.Text.Template

namespace BareMetal

/-- The class of a failure to get a reply, which the transport chooses. Its classes
form no closed list here. All that is assumed is that none of them is a kind of this
library, and that each either is also a class of bad values or is not. -/
structure Transport where
  name : String
  /-- A value that was given for the request is of no use. -/
  isBadValue : Bool
deriving DecidableEq, Repr

/-- There is no connection. -/
def Transport.connection : Transport := { name := "ConnectionError", isBadValue := false }

/-- The kind of a fault. -/
inductive FaultKind where
  | general
  | deserialization
  | unsupportedVersion
  | noMatch
  | badRequest
  | permissionDenied
  | cannotComplete
  | unexpected
  | server (status : Int) (reason : Option String) (body : String)
  | mismatch (m : Mismatch)
  | malformedJson
  | transport (t : Transport)
  | invalid
  | missing
  | overflow
  | malformedBase64
deriving Repr, BEq

namespace FaultKind

/-- The kinds that this library reports failures of the controller with. -/
def isReported : FaultKind → Bool
  | general | deserialization | unsupportedVersion | noMatch | badRequest
  | permissionDenied | cannotComplete | unexpected | server .. => true
  | _ => false

/-- The kinds of a request that got no usable reply. -/
def isTransport : FaultKind → Bool
  | transport _ | malformedJson => true
  | _ => false

/-- The kinds of a value that is of no use where it stands. -/
def isBadValue : FaultKind → Bool
  | invalid | malformedBase64 | malformedJson | mismatch _ => true
  | transport t => t.isBadValue
  | _ => false

end FaultKind

/-- A kind and a message. -/
structure Fault where
  kind : FaultKind
  message : String
deriving Repr, BEq

/-- A fault and the faults that led to it, nearest first. -/
structure Failure where
  fault : Fault
  causes : List Fault := []
deriving Repr, BEq

namespace Failure

/-- The kind of the outermost fault. -/
def kind (e : Failure) : FaultKind := e.fault.kind

/-- The message of the outermost fault. -/
def message (e : Failure) : String := e.fault.message

/-- All faults, outermost first. -/
def chain (e : Failure) : List Fault := e.fault :: e.causes

/-- A failure without a cause. -/
def plain (kind : FaultKind) (message : String) : Failure := { fault := ⟨kind, message⟩ }

/-- A failure of the given kind that another one led to. -/
def caused (kind : FaultKind) (message : String) (cause : Failure) : Failure :=
  { fault := ⟨kind, message⟩, causes := cause.chain }

/-- An argument or a setting cannot be used. -/
def invalid (message : String) : Failure := plain .invalid message

/-- A value does not have the expected shape. -/
def ofMismatch (m : Mismatch) : Failure := plain (.mismatch m) m.message

/-- The same failure with context in front of its message; its kind stays. -/
def annotate (context : String) (e : Failure) : Failure :=
  caused e.kind s!"{context}: {e.message}" e

/-- A failure to read a reply, caused by another. -/
def deserialization (context : String) (cause : Failure) : Failure :=
  caused .deserialization s!"{context}: {cause.message}" cause

/-- A failure that has no kind of its own. -/
def unexpected (cause : Failure) : Failure :=
  caused .unexpected s!"unexpected: {cause.message}" cause

/-- The controller's refusal of a request. -/
def server (status : Int) (reason : Option String) (body : String) : Failure :=
  let shown := reason.getD "None"
  plain (.server status reason body) s!"ServerError: {status} {shown} ({body})"

/-- Some fault of the chain is of a kind. -/
def answersTo (p : FaultKind → Bool) (e : Failure) : Bool := e.chain.any (p ·.kind)

/-- The failure or one that led to it is a reply of an unexpected shape. -/
def isDeserialization (e : Failure) : Bool := e.answersTo (· matches .deserialization)

/-- The failure or one that led to it is a version that is not supported. -/
def isUnsupportedVersion (e : Failure) : Bool := e.answersTo (· matches .unsupportedVersion)

/-- The failure or one that led to it is that nothing matches the request. -/
def isNoMatch (e : Failure) : Bool := e.answersTo (· matches .noMatch)

/-- The failure or one that led to it is a request that makes no sense. -/
def isBadRequest (e : Failure) : Bool := e.answersTo (· matches .badRequest)

/-- The failure or one that led to it is a lack of permission. -/
def isPermissionDenied (e : Failure) : Bool := e.answersTo (· matches .permissionDenied)

/-- The failure or one that led to it is a request that cannot be carried out now. -/
def isCannotComplete (e : Failure) : Bool := e.answersTo (· matches .cannotComplete)

/-- The failure or one that led to it has no kind of its own. -/
def isUnexpected (e : Failure) : Bool := e.answersTo (· matches .unexpected)

/-- A failure with a cause answers to its own kind and to those of the cause. -/
theorem answersTo_caused (p : FaultKind → Bool) (kind : FaultKind) (message : String)
    (cause : Failure) :
    (caused kind message cause).answersTo p = (p kind || cause.answersTo p) := rfl

end Failure

/-- An argument or a setting can be used only under a condition. -/
def require (condition : Bool) (message : String) : Except Failure Unit :=
  if condition then .ok () else .error (.invalid message)

/-- Kinds of failure for statuses of a refusal. -/
abbrev StatusTable := List (Int × FaultKind)

/-- The kinds that hold unless a request has its own. -/
def defaultStatuses : StatusTable :=
  [(400, .badRequest), (403, .permissionDenied), (404, .noMatch), (409, .badRequest),
    (503, .cannotComplete)]

/-- The kind of failure for a refusal with the given status. -/
def StatusTable.kind? (own : StatusTable) (status : Int) : Option FaultKind :=
  (own.find? (·.1 == status)).or (defaultStatuses.find? (·.1 == status)) |>.map (·.2)

/-- A refusal as the failure that callers branch on. Its message is the body of
the refusal, and the refusal is its cause; every other failure stays. -/
def Failure.translate (own : StatusTable) (e : Failure) : Failure :=
  match e.kind with
  | .server status _ body =>
    match own.kind? status with
    | some kind => caused kind body e
    | none => unexpected e
  | _ => e

end BareMetal
