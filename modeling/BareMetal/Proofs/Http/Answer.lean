/-
# What a client makes of one reply

A request whose path has a URL takes one reply, and what comes of it is decided by
that reply alone (`Client.answer`): the failure of the transport, the refusal of the
controller, or the value of the body. `run_request` says this together with all that
is visible of the request. The reply to the request with the index `i` is the one at
`i` in the list of the replies to come, and none where that list has ended (`replyAt`).
-/

import BareMetal.Http.Client
import BareMetal.Proofs.Except

namespace BareMetal

/-- What comes back when the replies are used up. -/
def noReply : Reply := .fault .connection "no reply"

/-- The reply to the request with the index `i`. -/
def replyAt (replies : List Reply) (i : Nat) : Reply := (replies[i]?).getD noReply

/-- Without the first reply the others are counted from the next one on. -/
theorem replyAt_tail (replies : List Reply) (i : Nat) :
    replyAt replies.tail i = replyAt replies (i + 1) := by
  cases replies <;> simp [replyAt]

/-- Without the first replies the others are counted from there on. -/
theorem replyAt_drop (replies : List Reply) (n i : Nat) :
    replyAt (replies.drop n) i = replyAt replies (n + i) := by
  simp [replyAt]

/-- The response with the given status and text. -/
def Reply.ofText (status : Int) (body : String) : Reply :=
  .response { status, body := body.toUTF8.toList }

namespace Exchange

variable {α β : Type}

/-- A chain of two exchanges runs the second one on the replies that the first one left,
unless the first one fails. -/
theorem run_bind (x : Exchange α) (f : α → Exchange β) (replies : List Reply) :
    (x >>= f).run replies =
      match x.run replies with
      | ⟨.error e, events, left⟩ => ⟨.error e, events, left⟩
      | ⟨.ok a, events, left⟩ =>
        ⟨((f a).run left).result, events ++ ((f a).run left).events, ((f a).run left).left⟩ := rfl

/-- A chain whose first part fails ends there. -/
theorem run_bind_of_result_error {x : Exchange α} {replies : List Reply} {e : Failure}
    (h : (x.run replies).result = .error e) (f : α → Exchange β) :
    (x >>= f).run replies = ⟨.error e, (x.run replies).events, (x.run replies).left⟩ := by
  rw [run_bind]
  generalize x.run replies = o at h ⊢
  obtain ⟨_, events, left⟩ := o
  cases h
  rfl

/-- A chain whose first part succeeds goes on with its value. -/
theorem run_bind_of_result_ok {x : Exchange α} {replies : List Reply} {a : α}
    (h : (x.run replies).result = .ok a) (f : α → Exchange β) :
    (x >>= f).run replies =
      let next := (f a).run (x.run replies).left
      ⟨next.result, (x.run replies).events ++ next.events, next.left⟩ := by
  rw [run_bind]
  generalize x.run replies = o at h ⊢
  obtain ⟨_, events, left⟩ := o
  cases h
  rfl

/-- Sending a request takes the next reply. -/
theorem run_send (r : Request) (replies : List Reply) :
    (send r).run replies = ⟨.ok (replyAt replies 0), [.request r], replies.tail⟩ := by
  cases replies <;> rfl

/-- An attempt turns a failure into a value and leaves all else as it was. -/
theorem run_attempt (x : Exchange α) (replies : List Reply) :
    x.attempt.run replies =
      ⟨.ok (x.run replies).result, (x.run replies).events, (x.run replies).left⟩ := rfl

/-- Renaming failures changes the result only. -/
theorem run_mapFailure (f : Failure → Failure) (x : Exchange α) (replies : List Reply) :
    (mapFailure f x).run replies =
      { x.run replies with result := (x.run replies).result.mapError f } := rfl

/-- What does not fail goes on at once, without an event. -/
theorem run_ofExcept_ok_bind (a : α) (f : α → Exchange β) (replies : List Reply) :
    (ofExcept (.ok a) >>= f).run replies = (f a).run replies := rfl

end Exchange

namespace Client

/-- Without an operation the parameters stay as they are. -/
theorem withOperation_empty (params : Params) : withOperation "" params = params := by
  simp [withOperation]

/-- The value of a reply. -/
def answer (path : String) : Reply → Except Failure Datum
  | .fault t message => .error (.plain (.transport t) message)
  | .response r => readResponse path r

/-- What is recorded of a reply. -/
def replyRecords (path : String) : Reply → List Event
  | .fault _ message =>
    [.log .error logger s!"✗ API request failed for {path}: {message}"]
  | .response _ => []

/-- Receiving a reply takes no further reply, and records what is to be recorded of this
one. -/
theorem run_receive (path : String) (reply : Reply) (later : List Reply) :
    (receive path reply).run later = ⟨answer path reply, replyRecords path reply, later⟩ := by
  cases reply <;> rfl

/-- A request takes one reply, and the reply decides. -/
theorem run_request_next (c : Client) {path url : String} (resolves : c.urlFor path = .ok url)
    (verb : Verb) (op : String) (query : Params) (form : Option Params) (replies : List Reply) :
    (c.request verb path op query form).run replies =
      ⟨answer path (replyAt replies 0),
        .request { verb, url, query := withOperation op query, form, timeout := c.timeout,
                   verify := c.verify } :: replyRecords path (replyAt replies 0),
        replies.tail⟩ := by
  rw [request, resolves, Exchange.run_ofExcept_ok_bind, Exchange.run_bind, Exchange.run_send]
  simp only [run_receive, List.singleton_append]

/-- A request to a path that resolves is sent once, and the next reply is its answer. -/
theorem run_request (c : Client) {path url : String} (resolves : c.urlFor path = .ok url)
    (verb : Verb) (op : String) (query : Params) (form : Option Params) (reply : Reply)
    (later : List Reply) :
    (c.request verb path op query form).run (reply :: later) =
      ⟨answer path reply,
        .request { verb, url, query := withOperation op query, form, timeout := c.timeout,
                   verify := c.verify } :: replyRecords path reply, later⟩ :=
  c.run_request_next resolves verb op query form (reply :: later)

/-- A refusal is the failure of the request, with its body as it reads in UTF-8. -/
theorem answer_of_isRefusal (path : String) {r : Response} (h : r.isRefusal) :
    answer path (.response r) =
      .error (.server r.status r.reason (String.ofList (Text.readUtf8 r.body))) := by
  simp [answer, readResponse, h]

/-- Every other response is read for its body. -/
theorem answer_of_not_isRefusal (path : String) {r : Response} (h : ¬ r.isRefusal) :
    answer path (.response r) = readBody path r.body := by
  simp [answer, readResponse, h]

/-- A body has a value other than null exactly if it is JSON of that value; without content its
value is null. -/
theorem readBody_eq_ok_iff {path : String} {body : List UInt8} {d : Datum} (some : d ≠ .null) :
    readBody path body = .ok d ↔ Json.parse (Text.readUtf8 body) = .ok d := by
  unfold readBody
  cases body with
  | nil => exact ⟨fun h => absurd (Except.ok.inj h).symm some, nofun⟩
  | cons b bs => simp [mapError_eq_ok_iff]

/-- A body that cannot be read is not JSON. -/
theorem eq_of_readBody_eq_error {path : String} {body : List UInt8} {e : Failure}
    (h : readBody path body = .error e) :
    ∃ fault, e = .deserialization s!"invalid JSON response for {path}" (.ofJson fault) := by
  unfold readBody at h
  split at h
  · cases h
  · cases hp : Json.parse (Text.readUtf8 body) with
    | ok d =>
      rw [hp] at h
      cases h
    | error fault =>
      rw [hp] at h
      cases h
      exact ⟨fault, rfl⟩

/-- A body that cannot be read is reported as such, and not as a refusal. -/
theorem kind_of_readBody_eq_error {path : String} {body : List UInt8} {e : Failure}
    (h : readBody path body = .error e) : e.kind = .deserialization := by
  obtain ⟨_, rfl⟩ := eq_of_readBody_eq_error h
  rfl

end Client
end BareMetal
