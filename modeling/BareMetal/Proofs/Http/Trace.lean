/-
# What is seen of an exchange

Of the events of an exchange the wire shows the requests that were sent
(`requests`), and beside them stand the clients that were created and closed
(`created`, `closed`). An exchange that takes one reply for each request that it sends
is `Paired`, one that sends nothing and takes none is `Silent`, and so is everything that
is put together of such exchanges. The last reply that an exchange takes is its
`lastReply`; of a chain it is that of the last part that takes one
(`lastReply_bind_of_ok`).
-/

import BareMetal.Proofs.Http.Answer

namespace BareMetal

namespace Event

/-- The request that is sent. -/
def request? : Event → Option Request
  | request r => some r
  | _ => none

/-- The client that is created. -/
def created? : Event → Option Client
  | create c => some c
  | _ => none

/-- The client that is closed. -/
def closed? : Event → Option Client
  | close c => some c
  | _ => none

end Event

/-- The requests among events, in order. -/
def requests (events : List Event) : List Request := events.filterMap Event.request?

/-- The clients that were created, in order. -/
def created (events : List Event) : List Client := events.filterMap Event.created?

/-- The clients that were closed, in order. -/
def closed (events : List Event) : List Client := events.filterMap Event.closed?

section Events

variable (events later : List Event)

/-- Where nothing happens no request is sent. -/
@[simp] theorem requests_nil : requests [] = [] := rfl

/-- Where nothing happens no client is created. -/
@[simp] theorem created_nil : created [] = [] := rfl

/-- Where nothing happens no client is closed. -/
@[simp] theorem closed_nil : closed [] = [] := rfl

/-- The requests among earlier and later events stand in this order. -/
@[simp] theorem requests_append : requests (events ++ later) = requests events ++ requests later :=
  List.filterMap_append

/-- The clients created by earlier and later events stand in this order. -/
@[simp] theorem created_append : created (events ++ later) = created events ++ created later :=
  List.filterMap_append

/-- The clients closed by earlier and later events stand in this order. -/
@[simp] theorem closed_append : closed (events ++ later) = closed events ++ closed later :=
  List.filterMap_append

/-- An event that sends a request adds it in front, and another event adds none. -/
@[simp] theorem requests_cons (e : Event) :
    requests (e :: events) = e.request?.toList ++ requests events := by
  cases e <;> rfl

/-- An event that creates a client adds it in front, and another event adds none. -/
@[simp] theorem created_cons (e : Event) :
    created (e :: events) = e.created?.toList ++ created events := by
  cases e <;> rfl

/-- An event that closes a client adds it in front, and another event adds none. -/
@[simp] theorem closed_cons (e : Event) :
    closed (e :: events) = e.closed?.toList ++ closed events := by
  cases e <;> rfl

end Events

/-- A response is among the replies to come. -/
theorem eq_cons_of_replyAt_zero {replies : List Reply} {r : Response}
    (h : replyAt replies 0 = .response r) : replies = .response r :: replies.tail := by
  cases replies with
  | nil => cases h
  | cons reply later =>
    obtain rfl : reply = .response r := h
    rfl

namespace Client

/-- What is recorded of a reply is no request. -/
theorem requests_replyRecords (path : String) (reply : Reply) :
    requests (replyRecords path reply) = [] := by
  cases reply <;> rfl

/-- What is recorded of a reply creates no client. -/
theorem created_replyRecords (path : String) (reply : Reply) :
    created (replyRecords path reply) = [] := by
  cases reply <;> rfl

/-- What is recorded of a reply closes no client. -/
theorem closed_replyRecords (path : String) (reply : Reply) :
    closed (replyRecords path reply) = [] := by
  cases reply <;> rfl

end Client

namespace Exchange

variable {α β : Type}

/-- An exchange sends nothing and takes no reply. -/
def Silent (x : Exchange α) : Prop :=
  ∀ replies, requests (x.run replies).events = [] ∧ (x.run replies).left = replies

/-- Passing on a result or a failure is silent. -/
theorem silent_ofExcept (r : Except Failure α) : (ofExcept r).Silent := fun _ => ⟨rfl, rfl⟩

/-- A value by itself is silent. -/
theorem silent_pure (a : α) : (pure a : Exchange α).Silent := fun _ => ⟨rfl, rfl⟩

/-- Recording a message is silent. -/
theorem silent_log (level : Level) (logger message : String) :
    (log level logger message).Silent := fun _ => ⟨rfl, rfl⟩

/-- What follows silently changes neither the requests nor the replies that are left. -/
theorem run_bind_of_silent {f : α → Exchange β} (hf : ∀ a, (f a).Silent) (x : Exchange α)
    (replies : List Reply) :
    requests ((x >>= f).run replies).events = requests (x.run replies).events ∧
      ((x >>= f).run replies).left = (x.run replies).left := by
  rw [run_bind]
  rcases x.run replies with ⟨e | a, events, left⟩
  · exact ⟨rfl, rfl⟩
  · simp [hf a left]

/-- Two silent parts are silent together. -/
theorem silent_bind {x : Exchange α} {f : α → Exchange β} (hx : x.Silent)
    (hf : ∀ a, (f a).Silent) : (x >>= f).Silent := by
  intro replies
  obtain ⟨hrequests, hleft⟩ := run_bind_of_silent hf x replies
  rw [hrequests, hleft]
  exact hx replies

/-- Doing something silent for each member of a list is silent. -/
theorem silent_forM {f : α → Exchange Unit} (hf : ∀ a, (f a).Silent) (xs : List α) :
    (xs.forM f).Silent := by
  induction xs with
  | nil => exact silent_pure ()
  | cons a xs ih => exact silent_bind (hf a) fun _ => ih

/-- An exchange takes one reply for each request that it sends. -/
def Paired (x : Exchange α) : Prop :=
  ∀ replies, (x.run replies).left = replies.drop (requests (x.run replies).events).length

/-- What sends nothing and takes nothing takes one reply for each request. -/
theorem Silent.paired {x : Exchange α} (h : x.Silent) : x.Paired := by
  intro replies
  rw [(h replies).1, (h replies).2]
  rfl

/-- Sending a request takes one reply for it. -/
theorem paired_send (r : Request) : (send r).Paired := by
  intro replies
  simp [run_send, Event.request?]

/-- An attempt takes the replies that the exchange takes. -/
theorem paired_attempt {x : Exchange α} (h : x.Paired) : x.attempt.Paired := h

/-- Renaming failures leaves the requests and the replies as they were. -/
theorem paired_mapFailure {x : Exchange α} (h : x.Paired) (f : Failure → Failure) :
    (x.mapFailure f).Paired := h

/-- Two parts that take one reply for each request do so together: the second one starts
behind the replies of the first. -/
theorem paired_bind {x : Exchange α} {f : α → Exchange β} (hx : x.Paired)
    (hf : ∀ a, (f a).Paired) : (x >>= f).Paired := by
  intro replies
  have first := hx replies
  rw [run_bind]
  rcases hr : x.run replies with ⟨e | a, events, left⟩
  · simpa [hr] using first
  · obtain rfl : left = replies.drop (requests events).length := by simpa [hr] using first
    simp [hf a _]

/-- Everything that happens in an exchange has a property. -/
def Emits (p : Event → Prop) (x : Exchange α) : Prop :=
  ∀ replies, ∀ e ∈ (x.run replies).events, p e

section Emits

variable {p : Event → Prop}

/-- Nothing happens in passing on a result or a failure. -/
theorem emits_ofExcept (r : Except Failure α) : (ofExcept r).Emits p := fun _ _ he => nomatch he

/-- Nothing happens in a value by itself. -/
theorem emits_pure (a : α) : (pure a : Exchange α).Emits p := fun _ _ he => nomatch he

/-- A single event has the property if this event does. -/
theorem emits_emit {e : Event} (h : p e) : (emit e).Emits p := fun _ _ he =>
  List.mem_singleton.1 he ▸ h

/-- Sending has the property if the request does. -/
theorem emits_send {r : Request} (h : p (.request r)) : (send r).Emits p := by
  intro replies e he
  rw [run_send] at he
  exact List.mem_singleton.1 he ▸ h

/-- Renaming failures makes nothing else happen. -/
theorem emits_mapFailure {x : Exchange α} (h : x.Emits p) (f : Failure → Failure) :
    (x.mapFailure f).Emits p := h

/-- What happens in two parts happens in one of them. -/
theorem emits_bind {x : Exchange α} {f : α → Exchange β} (hx : x.Emits p)
    (hf : ∀ a, (f a).Emits p) : (x >>= f).Emits p := by
  intro replies
  cases h : (x.run replies).result with
  | error e =>
    rw [run_bind_of_result_error h]
    exact hx replies
  | ok a =>
    rw [run_bind_of_result_ok h]
    exact List.forall_mem_append.2 ⟨hx replies, hf a _⟩

/-- What happens for the members of a list happens for one of them. -/
theorem emits_forM {f : α → Exchange Unit} (hf : ∀ a, (f a).Emits p) (xs : List α) :
    (xs.forM f).Emits p := by
  induction xs with
  | nil => exact emits_pure ()
  | cons a xs ih => exact emits_bind (hf a) fun _ => ih

end Emits

/-- The reply that an exchange took last, if it sent a request. -/
def lastReply (x : Exchange α) (replies : List Reply) : Option Reply :=
  match (requests (x.run replies).events).length with
  | 0 => none
  | n + 1 => some (replyAt replies n)

/-- What sends no request has no last reply. -/
theorem lastReply_eq_none {x : Exchange α} {replies : List Reply}
    (h : requests (x.run replies).events = []) : x.lastReply replies = none := by
  simp [lastReply, h]

/-- The last reply is the one to the last request. -/
theorem lastReply_eq_some {x : Exchange α} {replies : List Reply} {n : Nat}
    (h : (requests (x.run replies).events).length = n + 1) :
    x.lastReply replies = some (replyAt replies n) := by
  simp [lastReply, h]

/-- There is a last reply only where a request was sent. -/
theorem requests_ne_nil_of_lastReply {x : Exchange α} {replies : List Reply} {reply : Reply}
    (h : x.lastReply replies = some reply) : requests (x.run replies).events ≠ [] := by
  intro hnil
  rw [lastReply_eq_none hnil] at h
  cases h

/-- Exchanges with the same requests have the same last reply. -/
theorem lastReply_congr {x : Exchange α} {y : Exchange β} {replies : List Reply}
    (h : requests (x.run replies).events = requests (y.run replies).events) :
    x.lastReply replies = y.lastReply replies := by
  simp [lastReply, h]

section Bind

variable {x : Exchange α} {replies : List Reply}

/-- What ends with a failure took the last reply itself. -/
theorem lastReply_bind_of_error {e : Failure} (h : (x.run replies).result = .error e)
    (f : α → Exchange β) : (x >>= f).lastReply replies = x.lastReply replies :=
  lastReply_congr (by rw [run_bind_of_result_error h])

/-- The last reply is that of the part that goes on, if that took one. -/
theorem lastReply_bind_of_ok (hx : x.Paired) {a : α} (h : (x.run replies).result = .ok a)
    (f : α → Exchange β) :
    (x >>= f).lastReply replies =
      ((f a).lastReply (x.run replies).left).or (x.lastReply replies) := by
  unfold lastReply
  rw [run_bind_of_result_ok h, requests_append, List.length_append]
  cases (requests ((f a).run (x.run replies).left).events).length with
  | zero => rfl
  | succ n => simp [hx replies, replyAt_drop]

end Bind

end Exchange

namespace Client

/-- Creating a client is silent. -/
theorem silent_create (c : Client) : c.create.Silent := fun _ => ⟨rfl, rfl⟩

/-- Closing a client is silent. -/
theorem silent_close (c : Client) : c.close.Silent := fun _ => ⟨rfl, rfl⟩

/-- Receiving a reply that is there is silent. -/
theorem silent_receive (path : String) (reply : Reply) : (receive path reply).Silent := by
  intro later
  rw [run_receive]
  exact ⟨requests_replyRecords path reply, rfl⟩

/-- What is sent for a path: one request if the path has a URL, and else none. -/
def sent (c : Client) (path : String) (request : String → Request) : List Request :=
  match c.urlFor path with
  | .error _ => []
  | .ok url => [request url]

/-- A request is sent exactly if its path resolves. -/
theorem requests_request (c : Client) (verb : Verb) (path op : String) (query : Params)
    (form : Option Params) (replies : List Reply) :
    requests ((c.request verb path op query form).run replies).events =
      c.sent path fun url => { verb, url, query := withOperation op query, form,
                               timeout := c.timeout, verify := c.verify } := by
  unfold sent
  split
  · next e h => rw [request, h, Exchange.run_bind]; rfl
  · next url h =>
    rw [run_request_next c h, requests_cons, requests_replyRecords]
    rfl

/-- What happens in a request is that it is sent, and that a missing reply is recorded. -/
theorem emits_request {p : Event → Prop} (sends : ∀ r, p (.request r))
    (records : ∀ level logger message, p (.log level logger message)) (c : Client) (verb : Verb)
    (path op : String) (query : Params) (form : Option Params) :
    (c.request verb path op query form).Emits p := by
  refine Exchange.emits_bind (Exchange.emits_ofExcept _) fun url =>
    Exchange.emits_bind (Exchange.emits_send (sends _)) fun reply => ?_
  cases reply with
  | fault t message =>
    exact Exchange.emits_bind (Exchange.emits_emit (records _ _ _)) fun _ =>
      Exchange.emits_ofExcept _
  | response r => exact Exchange.emits_ofExcept _

/-- A request takes one reply if it is sent, and none if its path does not resolve. -/
theorem paired_request (c : Client) (verb : Verb) (path op : String) (query : Params)
    (form : Option Params) : (c.request verb path op query form).Paired :=
  Exchange.paired_bind (Exchange.silent_ofExcept _).paired fun _ =>
    Exchange.paired_bind (Exchange.paired_send _) fun reply => (silent_receive path reply).paired

end Client
end BareMetal
