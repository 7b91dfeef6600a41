/-
# Exchanges

An exchange is a computation that sends requests and gets replies. It is run on
the list of the replies to come and yields a result or a failure, what happened
on the way, and the replies that are left. The creation and the closing of a client,
requests, log records and printed lines are events, in the order in which they
happen, and a failure leaves the events before it in place.
-/

import BareMetal.Datum
import BareMetal.Failure
import BareMetal.Number.Quantity

namespace BareMetal

/-- A client of one version of the interface. -/
structure Client where
  baseUrl : String
  apiVersion : String := "2.0"
  /-- How many seconds to wait for a reply; nothing is without end. -/
  timeout : Option Quantity := some (.whole 30)
  verify : Bool := true
deriving Repr, DecidableEq

/-- The method of a request. -/
inductive Verb where
  | get
  | post
  | delete
deriving DecidableEq, Repr

/-- The name of a method. -/
def Verb.name : Verb → String
  | get => "GET"
  | post => "POST"
  | delete => "DELETE"

/-- The parameters of a query or a form. -/
abbrev Params := Entries Datum

/-- A request. -/
structure Request where
  verb : Verb
  url : String
  query : Params
  form : Option Params
  /-- How many seconds to wait for a reply; nothing is without end. -/
  timeout : Option Quantity
  /-- Whether certificates are checked. -/
  verify : Bool
  /-- The media type that the reply should have. -/
  accept : String := "application/json"
deriving Repr, BEq

/-- A response of the controller. -/
structure Response where
  status : Int := 200
  reason : Option String := some "OK"
  body : List UInt8
deriving DecidableEq, Repr

/-- The response refuses the request. -/
def Response.isRefusal (r : Response) : Bool := 400 ≤ r.status && r.status < 600

/-- What comes back for a request. It is assumed that every request ends in a response or
in a failure of the transport: anything else that sending one could end in, such as a
timeout too great for a clock or a label of a host name that is too long, is left out. -/
inductive Reply where
  | fault (t : Transport) (message : String)
  | response (r : Response)
deriving DecidableEq, Repr

/-- The level of a log record. -/
inductive Level where
  | info
  | error
deriving DecidableEq, Repr

/-- The name of a level. -/
def Level.name : Level → String
  | info => "INFO"
  | error => "ERROR"

/-- Something that happens during an exchange. -/
inductive Event where
  | create (c : Client)
  | request (r : Request)
  | close (c : Client)
  | log (level : Level) (logger message : String)
  | print (line : String)
deriving Repr, BEq

/-- The lines that an event writes. -/
def Event.lines : Event → List String
  | log level logger message => [s!"{level.name} {logger}: {message}"]
  | print line => [line]
  | _ => []

/-- The text that events write. -/
def written (events : List Event) : String :=
  String.join ((events.flatMap Event.lines).map (· ++ "\n"))

/-- The end of an exchange. -/
structure Outcome (α : Type) where
  result : Except Failure α
  events : List Event
  /-- The replies that no request has taken. -/
  left : List Reply

/-- A computation that sends requests and gets replies. -/
def Exchange (α : Type) := List Reply → Outcome α

namespace Exchange

variable {α β : Type}

/-- Runs an exchange on the replies to come. -/
def run (x : Exchange α) (replies : List Reply) : Outcome α := x replies

/-- Goes on with a result; a failure ends the exchange. -/
def bind (x : Exchange α) (f : α → Exchange β) : Exchange β := fun replies =>
  match x replies with
  | ⟨.error e, events, left⟩ => ⟨.error e, events, left⟩
  | ⟨.ok a, events, left⟩ =>
    let next := f a left
    ⟨next.result, events ++ next.events, next.left⟩

instance : Monad Exchange where
  pure a := fun replies => ⟨.ok a, [], replies⟩
  bind := bind

/-- Ends with a result or a failure, without an event. -/
def ofExcept (r : Except Failure α) : Exchange α := fun replies => ⟨r, [], replies⟩

/-- Ends with a failure. -/
def fail (e : Failure) : Exchange α := ofExcept (.error e)

/-- Lets an event happen. -/
def emit (e : Event) : Exchange Unit := fun replies => ⟨.ok (), [e], replies⟩

/-- Writes a log record. -/
def log (level : Level) (logger message : String) : Exchange Unit :=
  emit (.log level logger message)

/-- The result of an exchange, be it a failure. -/
def attempt (x : Exchange α) : Exchange (Except Failure α) := fun replies =>
  let o := x replies
  ⟨.ok o.result, o.events, o.left⟩

/-- Goes on after a failure as `f` says. -/
def mapFailure (f : Failure → Failure) (x : Exchange α) : Exchange α := fun replies =>
  let o := x replies
  { o with result := o.result.mapError f }

/-- Sends a request and takes the next reply. When the replies are used up there
is no connection. The sending itself does not fail in any other way (`Reply`). -/
def send (r : Request) : Exchange Reply := fun replies =>
  match replies with
  | [] => ⟨.ok (.fault .connection "no reply"), [.request r], []⟩
  | reply :: left => ⟨.ok reply, [.request r], left⟩

/-- A result by itself sends nothing and takes no reply. -/
@[simp] theorem run_pure (a : α) (replies : List Reply) :
    (pure a : Exchange α).run replies = ⟨.ok a, [], replies⟩ := rfl

/-- Passing on a result or a failure sends nothing and takes no reply. -/
@[simp] theorem run_ofExcept (r : Except Failure α) (replies : List Reply) :
    (ofExcept r).run replies = ⟨r, [], replies⟩ := rfl

/-- An event is recorded and takes no reply. -/
@[simp] theorem run_emit (e : Event) (replies : List Reply) :
    (emit e).run replies = ⟨.ok (), [e], replies⟩ := rfl

/-- The second part of an exchange runs on the replies that the first one left, and its
events come after those of the first. -/
theorem run_bind_of_ok {x : Exchange α} {f : α → Exchange β} {replies left : List Reply}
    {a : α} {events : List Event} (h : x.run replies = ⟨.ok a, events, left⟩) :
    (x >>= f).run replies =
      ⟨((f a).run left).result, events ++ ((f a).run left).events, ((f a).run left).left⟩ := by
  simp only [run] at h
  simp [run, Bind.bind, bind, h]

end Exchange
end BareMetal
