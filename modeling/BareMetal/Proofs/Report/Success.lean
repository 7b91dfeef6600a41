/-
# What counts as a success

A call succeeds only on a response that it took last. Of the status of a response one thing
alone counts: whether it is a refusal, from 400 to 599. Every other status, be it 304 or 600,
counts as 200 does (`Call.blind_exchange`), so that an operation that reads nothing from the
reply succeeds on it. It is meant to fail on every status that is not from 200 to 299
(`Call.success_beyond_2xx`).
-/

import BareMetal.Proofs.Report.Permission

namespace BareMetal

/-- The refusals are the responses with a status from 400 to 599. -/
theorem Response.isRefusal_iff {r : Response} :
    r.isRefusal ↔ 400 ≤ r.status ∧ r.status ≤ 599 := by
  simp [isRefusal]
  omega

/-- The reply with the status 200, unless it is a refusal. -/
def Reply.settled : Reply → Reply
  | .fault t message => .fault t message
  | .response r => .response (if r.isRefusal then r else { r with status := 200 })

/-- The next reply is settled if all are. -/
theorem replyAt_map_settled (replies : List Reply) (i : Nat) :
    replyAt (replies.map Reply.settled) i = (replyAt replies i).settled := by
  rw [replyAt, replyAt, List.getElem?_map]
  cases replies[i]? <;> rfl

/-- A reply is answered alike when it is settled, since its body stays and no refusal is
touched. -/
theorem Client.answer_settled (path : String) (reply : Reply) :
    answer path reply.settled = answer path reply := by
  cases reply with
  | fault t message => rfl
  | response r =>
    by_cases refuses : r.isRefusal
    · rw [Reply.settled, if_pos refuses]
    · have accepted : ¬ ({ r with status := 200 } : Response).isRefusal := Bool.false_ne_true
      rw [Reply.settled, if_neg refuses, answer_of_not_isRefusal path accepted,
        answer_of_not_isRefusal path refuses]

/-- The same is recorded of a reply when it is settled. -/
theorem Client.replyRecords_settled (path : String) (reply : Reply) :
    replyRecords path reply.settled = replyRecords path reply := by
  cases reply <;> rfl

namespace Exchange

variable {α β : Type}

/-- An exchange does the same whatever the statuses are, refusals apart. -/
def Blind (x : Exchange α) : Prop :=
  ∀ replies, x.run (replies.map Reply.settled) =
    { x.run replies with left := (x.run replies).left.map Reply.settled }

/-- A result or a failure that is passed on does not depend on any reply. -/
theorem blind_ofExcept (r : Except Failure α) : (ofExcept r).Blind := fun _ => rfl

/-- A value by itself does not depend on any reply. -/
theorem blind_pure (a : α) : (pure a : Exchange α).Blind := fun _ => rfl

/-- An event does not depend on any reply. -/
theorem blind_emit (e : Event) : (emit e).Blind := fun _ => rfl

/-- An attempt is blind to what the exchange is blind to. -/
theorem blind_attempt {x : Exchange α} (h : x.Blind) : x.attempt.Blind := by
  intro replies
  rw [run_attempt, run_attempt, h replies]

/-- Renaming failures does not look at statuses. -/
theorem blind_mapFailure {x : Exchange α} (h : x.Blind) (f : Failure → Failure) :
    (x.mapFailure f).Blind := by
  intro replies
  rw [run_mapFailure, run_mapFailure, h replies]

/-- Two blind parts are blind together. -/
theorem blind_bind {x : Exchange α} {f : α → Exchange β} (hx : x.Blind)
    (hf : ∀ a, (f a).Blind) : (x >>= f).Blind := by
  intro replies
  rw [run_bind, run_bind, hx replies]
  rcases x.run replies with ⟨e | a, events, left⟩
  · rfl
  · simp only [hf a left]

/-- An exchange succeeds only on a response that it took last, and not on a refusal. -/
def Accepted (x : Exchange α) : Prop :=
  ∀ replies a, (x.run replies).result = .ok a →
    ∃ r, x.lastReply replies = some (.response r) ∧ ¬ r.isRefusal

/-- Renaming failures makes no success. -/
theorem accepted_mapFailure {x : Exchange α} (h : x.Accepted) (f : Failure → Failure) :
    (x.mapFailure f).Accepted := by
  intro replies a hok
  rw [run_mapFailure] at hok
  exact h replies a (mapError_eq_ok_iff.1 hok)

/-- What goes on silently succeeds on the same reply. -/
theorem accepted_bind {x : Exchange α} {f : α → Exchange β} (hx : x.Accepted)
    (hf : ∀ a, (f a).Silent) : (x >>= f).Accepted := by
  intro replies b hok
  cases hr : (x.run replies).result with
  | error e =>
    rw [run_bind_of_result_error hr] at hok
    cases hok
  | ok a =>
    rw [lastReply_congr (run_bind_of_silent hf x replies).1]
    exact hx replies a hr

/-- What begins silently succeeds on the reply on which it goes on. -/
theorem accepted_silent_bind {x : Exchange α} {f : α → Exchange β} (hx : x.Silent)
    (hf : ∀ a, (f a).Accepted) : (x >>= f).Accepted := by
  intro replies b hok
  cases hr : (x.run replies).result with
  | error e =>
    rw [run_bind_of_result_error hr] at hok
    cases hok
  | ok a =>
    rw [run_bind_of_result_ok hr] at hok
    obtain ⟨r, hlast, accepted⟩ := hf a _ b hok
    refine ⟨r, ?_, accepted⟩
    rw [lastReply_bind_of_ok hx.paired hr, hlast]
    rfl

end Exchange

open Exchange

namespace Client

variable (c : Client) (verb : Verb) (path op : String) (query : Params) (form : Option Params)

/-- A request does the same whatever the status of the reply is, refusals apart. -/
theorem blind_request : (c.request verb path op query form).Blind := by
  intro replies
  cases resolves : c.urlFor path with
  | error e =>
    rw [request, resolves]
    rfl
  | ok url =>
    rw [c.run_request_next resolves, c.run_request_next resolves, replyAt_map_settled,
      answer_settled, replyRecords_settled, List.map_tail]

/-- A request succeeds only on a response that is no refusal. -/
theorem accepted_request : (c.request verb path op query form).Accepted := by
  intro replies d h
  cases resolves : c.urlFor path with
  | error e =>
    rw [request, resolves] at h
    cases h
  | ok url =>
    have one := c.requests_request verb path op query form replies
    rw [sent, resolves] at one
    rw [c.run_request_next resolves] at h
    rw [lastReply_eq_some (n := 0) (by rw [one]; rfl)]
    generalize replyAt replies 0 = reply at h
    cases reply with
    | fault t message => cases h
    | response r =>
      refine ⟨r, rfl, fun refuses => ?_⟩
      rw [answer_of_isRefusal path refuses] at h
      cases h

end Client

/-- The response has no content, or JSON. -/
def Response.IsReadable (r : Response) : Prop :=
  r.body = [] ∨ ∃ d, Json.parse (Text.readUtf8 r.body) = .ok d

/-- A body can be read exactly if it is empty or JSON. -/
theorem Client.exists_readBody_iff (path : String) {r : Response} :
    (∃ d, readBody path r.body = .ok d) ↔ r.IsReadable := by
  unfold readBody Response.IsReadable
  split
  · next empty => exact iff_of_true ⟨_, rfl⟩ (.inl (List.isEmpty_iff.1 empty))
  · next filled =>
    have some : r.body ≠ [] := fun h => filled (List.isEmpty_iff.2 h)
    simp [mapError_eq_ok_iff, some]

namespace Operation

/-- An operation that reads nothing from the reply. -/
inductive IsCommand : Operation Unit → Prop
  | releaseMachines (systemIds : List String) (comment : String) :
      IsCommand (.releaseMachines systemIds comment)
  | deleteDevice (device : Device) : IsCommand (.deleteDevice device)
  | addTagToMachine (tag : Tag) (systemId : String) : IsCommand (.addTagToMachine tag systemId)
  | removeTagFromMachine (tag : Tag) (systemId : String) :
      IsCommand (.removeTagFromMachine tag systemId)

/-- A command reads nothing, so nothing that comes back can be wrong. -/
theorem IsCommand.reading_eq {op : Operation Unit} (h : op.IsCommand) (v : Version) (d : Datum) :
    op.reading v d = .ok () := by
  cases h <;> rfl

end Operation

namespace Controller

variable {α : Type} (c : Controller)

/-- Sending what a plan says is blind. -/
theorem blind_send (p : Plan α) : (c.send p).Blind := by
  unfold send
  split
  · exact c.client.blind_request .get p.path p.op _ none
  · exact c.client.blind_request .post p.path p.op [] p.params
  · exact blind_bind (blind_bind (c.client.blind_request .delete p.path "" [] none)
      fun _ => blind_pure _) fun _ => blind_pure _

/-- Carrying out a plan is blind: what it records and reads depends on the body. -/
theorem blind_carryOut (p : Plan α) : (c.carryOut p).Blind := by
  refine blind_bind (blind_mapFailure (c.blind_send p) _) fun source =>
    blind_bind (blind_ofExcept _) fun result => ?_
  dsimp only
  split
  · exact blind_bind (blind_emit _) fun _ => blind_pure result
  · exact blind_pure result

/-- Every operation is blind. -/
theorem blind_perform (op : Operation α) : (c.perform op).Blind :=
  blind_bind (blind_ofExcept _) c.blind_carryOut

/-- Asking for the capabilities is blind. -/
theorem blind_readCapabilities (client : Client) : (readCapabilities client).Blind :=
  blind_bind (client.blind_request .get "version/" "" _ none) fun _ => blind_ofExcept _

/-- Trying one version after the other is blind; the induction is on the versions that are
left. -/
theorem blind_tryVersions (baseUrl : String) (timeout : Option Quantity) (verify : Bool)
    (last : Option Failure) (versions : List String) :
    (tryVersions baseUrl timeout verify last versions).Blind := by
  induction versions generalizing last with
  | nil => exact blind_ofExcept _
  | cons version versions ih =>
    refine blind_bind (blind_emit _) fun _ =>
      blind_bind (blind_attempt (blind_readCapabilities _)) fun answer => ?_
    cases answer with
    | ok capabilities => exact blind_bind (blind_emit _) fun _ => blind_ofExcept _
    | error e =>
      dsimp only
      split
      · exact blind_bind (blind_emit _) fun _ => ih (some e)
      · exact blind_ofExcept _

/-- What a plan says is sent with success only if a response accepts it. -/
theorem accepted_send (p : Plan α) : (c.send p).Accepted := by
  unfold send
  split
  · exact c.client.accepted_request .get p.path p.op _ none
  · exact c.client.accepted_request .post p.path p.op [] p.params
  · exact accepted_bind (accepted_bind (c.client.accepted_request .delete p.path "" [] none)
      fun _ => silent_pure _) fun _ => silent_pure _

/-- An operation succeeds only on a response that it took, and not on a refusal. -/
theorem accepted_perform (op : Operation α) : (c.perform op).Accepted :=
  accepted_silent_bind (silent_ofExcept _) fun p =>
    accepted_bind (accepted_mapFailure (c.accepted_send p) _) (c.silent_finish p)

/-- Connecting succeeds on the reply that names the capabilities. -/
theorem accepted_connect (baseUrl : String) (versions : List String) (timeout : Option Quantity)
    (verify : Bool) : (connect baseUrl versions timeout verify).Accepted := by
  intro replies controller hok
  obtain ⟨ms, hms, hend⟩ := exists_connect_ending baseUrl versions timeout verify replies
  cases hend with
  | inVain versions_eq follows =>
    rw [follows.result_eq] at hok
    cases hok
  | unresolved v rest e versions_eq fails follows =>
    rw [follows.result_eq] at hok
    cases hok
  | answered v rest url capabilities versions_eq resolves answers follows =>
    obtain ⟨names, r, es, hreply, accepted, -⟩ := exists_capabilitiesIn_iff.1 ⟨_, answers⟩
    refine ⟨r, ?_, accepted⟩
    rw [lastReply_eq_some (n := ms.length) (by simp [follows.requests_eq, Event.request?]), hreply]

variable {c}

/-- A command succeeds on every response that is no refusal and can be read. -/
theorem perform_command_iff {op : Operation Unit} (command : op.IsCommand)
    {replies : List Reply} {r : Response}
    (hlast : (c.perform op).lastReply replies = some (.response r)) :
    (∃ x, ((c.perform op).run replies).result = .ok x) ↔ ¬ r.isRefusal ∧ r.IsReadable := by
  obtain ⟨p, url, usable, resolves, hreply⟩ := c.exists_plan_of_lastReply hlast
  rw [eq_cons_of_replyAt_zero hreply, result_perform c usable resolves,
    ← Client.exists_readBody_iff p.path]
  by_cases refuses : r.isRefusal
  · rw [Client.answer_of_isRefusal p.path refuses]
    exact iff_of_false nofun fun h => h.1 refuses
  · rw [Client.answer_of_not_isRefusal p.path refuses]
    cases hbody : Client.readBody p.path r.body with
    | error e => exact iff_of_false nofun fun ⟨_, _, h⟩ => nomatch h
    | ok d => exact iff_of_true ⟨(), command.reading_eq c.version d⟩ ⟨refuses, d, rfl⟩

end Controller

namespace Call

variable {α : Type}

/-- The call is an operation that reads nothing from the reply. -/
inductive IsCommand : {α : Type} → Call α → Prop
  | intro {c : Controller} {op : Operation Unit} (command : op.IsCommand) :
      IsCommand (.operation c op)

/-- If the call succeeds, then the response that it took last has a status from 200 to 299. -/
def KeepsTo2xx (call : Call α) (replies : List Reply) : Prop :=
  ∀ x r, (call.exchange.run replies).result = .ok x →
    call.exchange.lastReply replies = some (.response r) → 200 ≤ r.status ∧ r.status ≤ 299

/-- A call succeeds only on a response that it took last, and not on a refusal. -/
theorem accepted_exchange (call : Call α) : call.exchange.Accepted := by
  cases call with
  | connect baseUrl versions timeout verify =>
    exact Controller.accepted_connect baseUrl versions timeout verify
  | operation c op => exact c.accepted_perform op

/-- A call does the same whatever the statuses of its replies are, refusals apart. -/
theorem blind_exchange (call : Call α) : call.exchange.Blind := by
  cases call with
  | connect baseUrl versions timeout verify =>
    exact Controller.blind_tryVersions baseUrl timeout verify none _
  | operation c op => exact c.blind_perform op

/-- A call keeps to the statuses from 200 to 299 exactly if it fails on each other one that
it takes last. -/
theorem keepsTo2xx_iff {call : Call α} {replies : List Reply} :
    call.KeepsTo2xx replies ↔
      ∀ r, call.exchange.lastReply replies = some (.response r) →
        ¬ (200 ≤ r.status ∧ r.status ≤ 299) →
          ¬ ∃ x, (call.exchange.run replies).result = .ok x := by
  constructor
  · rintro keeps r hlast outside ⟨x, hok⟩
    exact outside (keeps x r hok hlast)
  · intro fails x r hok hlast
    exact not_not.1 fun outside => fails r hlast outside ⟨x, hok⟩

/-- **Which statuses succeed.** A call succeeds only on a response that it took last, and on no
refusal. It keeps to the statuses from 200 to 299 exactly if any other status in the end is a
refusal, from 400 to 599, or the call would fail with 200 in its place as well. For a command
the latter is to say that the body cannot be read. -/
theorem keeps_to_2xx (call : Call α) (replies : List Reply) :
    (∀ x, (call.exchange.run replies).result = .ok x →
      ∃ r, call.exchange.lastReply replies = some (.response r) ∧
        ¬ (400 ≤ r.status ∧ r.status ≤ 599)) ∧
    (call.KeepsTo2xx replies ↔
      ∀ r, call.exchange.lastReply replies = some (.response r) →
        ¬ (200 ≤ r.status ∧ r.status ≤ 299) →
          (400 ≤ r.status ∧ r.status ≤ 599) ∨
            ∃ e, (call.exchange.run (replies.map Reply.settled)).result = .error e) ∧
    (call.IsCommand →
      (call.KeepsTo2xx replies ↔
        ∀ r, call.exchange.lastReply replies = some (.response r) →
          ¬ (200 ≤ r.status ∧ r.status ≤ 299) →
            (400 ≤ r.status ∧ r.status ≤ 599) ∨ ¬ r.IsReadable)) := by
  refine ⟨fun x hok => ?_, ?_, fun command => ?_⟩
  · obtain ⟨r, hlast, accepted⟩ := call.accepted_exchange replies x hok
    exact ⟨r, hlast, fun range => accepted (Response.isRefusal_iff.2 range)⟩
  · rw [keepsTo2xx_iff, call.blind_exchange replies]
    refine forall₃_congr fun r hlast _ => ?_
    rw [← Response.isRefusal_iff]
    cases hr : (call.exchange.run replies).result with
    | error e => exact iff_of_true nofun (.inr ⟨e, rfl⟩)
    | ok x =>
      -- what succeeded did not end on a refusal
      obtain ⟨r', hlast', accepted⟩ := call.accepted_exchange replies x hr
      rw [hlast] at hlast'
      cases hlast'
      exact iff_of_false (fun fails => fails ⟨x, rfl⟩) (not_or.2 ⟨accepted, nofun⟩)
  · obtain ⟨command⟩ := command
    rw [keepsTo2xx_iff]
    refine forall₃_congr fun r hlast _ => ?_
    rw [exchange, Controller.perform_command_iff command hlast, ← Response.isRefusal_iff,
      not_and_or, not_not]

/-- A release that the controller answers with the status 304 succeeds, and one with the status
409 keeps to the statuses from 200 to 299. -/
theorem keeps_to_2xx_release :
    let c : Controller := ⟨{ baseUrl := "http://maas:5240/MAAS" }, { release := [2, 0] }, .empty⟩
    let release : Call Unit := .operation c (.releaseMachines ["4y3ha3"] "")
    let unchanged : Response := { status := 304, reason := some "Not Modified", body := [] }
    let busy : Response := { status := 409, reason := some "Conflict", body := [] }
    release.IsCommand ∧
      release.exchange.lastReply [.response unchanged] = some (.response unchanged) ∧
      ¬ release.KeepsTo2xx [.response unchanged] ∧
      release.exchange.lastReply [.response busy] = some (.response busy) ∧
      release.KeepsTo2xx [.response busy] := by
  intro c release unchanged busy
  have command : release.IsCommand := .intro (.releaseMachines _ _)
  have lastUnchanged : release.exchange.lastReply [.response unchanged] =
      some (.response unchanged) := by cbv
  have lastBusy : release.exchange.lastReply [.response busy] = some (.response busy) := by cbv
  refine ⟨command, lastUnchanged, fun keeps => ?_, lastBusy, ?_⟩
  · have fails := ((keeps_to_2xx release [.response unchanged]).2.2 command).1 keeps unchanged
      lastUnchanged (by decide)
    exact fails.elim (by decide) fun unreadable => unreadable (.inl rfl)
  · refine ((keeps_to_2xx release [.response busy]).2.2 command).2 fun r hlast _ => .inl ?_
    rw [lastBusy] at hlast
    cases hlast
    decide

/-- The commands succeed on a response with the status 304, and connecting on one with the
status 600. -/
theorem success_beyond_2xx :
    let c : Controller := ⟨{ baseUrl := "http://maas:5240/MAAS" }, { release := [2, 0] }, .empty⟩
    let zone : Zone := { resourceUri := "/", name := "default", description := "" }
    let device : Device := { resourceUri := "/MAAS/api/2.0/devices/4y3ha8/", systemId := "4y3ha8",
                             hostname := "a", fqdn := "a.maas", zone }
    let tag : Tag := { resourceUri := "/MAAS/api/2.0/tags/virtual/", name := "virtual" }
    let unchanged : Reply := .response { status := 304, reason := some "Not Modified", body := [] }
    let listing : Reply := .ofText 600 "\x7b\"capabilities\": []\x7d"
    (∀ op ∈ [.deleteDevice device, .releaseMachines ["4y3ha3"] "", .addTagToMachine tag "4y3ha3",
        .removeTagFromMachine tag "4y3ha3"], ((c.perform op).run [unchanged]).result = .ok ()) ∧
    (∃ x, ((Controller.connect "http://maas:5240/MAAS").run [listing]).result = .ok x) ∧
    ¬ ∀ {α : Type} (call : Call α) (replies : List Reply), call.KeepsTo2xx replies := by
  intro c zone device tag unchanged listing
  have commands : ∀ op ∈ [.deleteDevice device, .releaseMachines ["4y3ha3"] "",
      .addTagToMachine tag "4y3ha3", .removeTagFromMachine tag "4y3ha3"],
      ((c.perform op).run [unchanged]).result = .ok () := by
    simp only [List.forall_mem_cons, List.not_mem_nil, false_imp_iff, implies_true, and_true]
    exact ⟨by cbv, by cbv, by cbv, by cbv⟩
  refine ⟨commands, ?_, fun keeps => ?_⟩
  · exact ⟨⟨{ baseUrl := "http://maas:5240/MAAS" }, { release := [2, 0] }, .empty⟩, by cbv⟩
  · have deleted : ((c.perform (.deleteDevice device)).run [unchanged]).result = .ok () :=
      commands _ (by simp)
    have last : (c.perform (.deleteDevice device)).lastReply [unchanged] = some unchanged := by cbv
    have inside := keeps (.operation c (.deleteDevice device)) [unchanged] () _ deleted last
    exact absurd inside.2 (by decide)

end Call
end BareMetal
