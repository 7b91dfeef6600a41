/-
# A lack of permission

A refusal with the status 403 is a lack of permission. An operation that takes such a reply
fails with a failure of that kind (`recognises_perform`), and so does all that is put
together of operations (`Exchange.Recognises`).

Connecting does not translate the refusals that it gets: whatever the replies are, no
failure to connect is a lack of permission (`not_isPermissionDenied_of_connect`).
-/

import BareMetal.Proofs.Controller.Negotiation
import BareMetal.Proofs.Controller.Outcome
import BareMetal.Proofs.Controller.Request

namespace BareMetal

namespace Response

/-- The response says that a permission is lacking. -/
def Forbids (r : Response) : Prop := r.status = 403

/-- A response that forbids the request is a refusal. -/
theorem Forbids.isRefusal {r : Response} (h : r.Forbids) : r.isRefusal := by
  simp [Response.isRefusal, show r.status = 403 from h]

end Response

/-- A failure that reports a response as a lack of permission answers to the question for
one. -/
theorem Failure.Reports.isPermissionDenied {e : Failure} {r : Response}
    (h : e.Reports .permissionDenied r) : e.isPermissionDenied := by
  have hkind : e.fault.kind = .permissionDenied := h.kind_eq
  simp [Failure.isPermissionDenied, Failure.answersTo, Failure.chain, hkind]

/-- The status means the same for every operation. -/
theorem Operation.refusal_forbidden {α : Type} (op : Operation α) :
    op.refusal 403 = .permissionDenied := by
  cases op <;> rfl

namespace Exchange

variable {α β : Type}

/-- When the last reply that an exchange takes forbids the request, the failure says so. -/
structure Recognises (x : Exchange α) : Prop where
  paired : x.Paired
  reports : ∀ replies r, x.lastReply replies = some (.response r) → r.Forbids →
    ∃ e, (x.run replies).result = .error e ∧ e.Reports .permissionDenied r

/-- What takes no reply has nothing to recognise. -/
theorem Silent.recognises {x : Exchange α} (h : x.Silent) : x.Recognises where
  paired := h.paired
  reports replies r hlast := by
    rw [lastReply_eq_none (h replies).1] at hlast
    cases hlast

/-- Two parts that recognise a lack of permission do so together: the last reply is taken by
the second part, or else by the first one. -/
theorem recognises_bind {x : Exchange α} {f : α → Exchange β} (hx : x.Recognises)
    (hf : ∀ a, (f a).Recognises) : (x >>= f).Recognises where
  paired := paired_bind hx.paired fun a => (hf a).paired
  reports replies r hlast forbids := by
    cases hr : (x.run replies).result with
    | error e =>
      rw [lastReply_bind_of_error hr] at hlast
      obtain ⟨e', he', reports⟩ := hx.reports replies r hlast forbids
      obtain rfl : e = e' := Except.error.inj (hr.symm.trans he')
      exact ⟨e, by rw [run_bind_of_result_error hr], reports⟩
    | ok a =>
      rw [lastReply_bind_of_ok hx.paired hr] at hlast
      rcases Option.or_eq_some_iff.1 hlast with hlast | ⟨-, hlast⟩
      · obtain ⟨e', he', reports⟩ := (hf a).reports _ r hlast forbids
        exact ⟨e', by rw [run_bind_of_result_ok hr, he'], reports⟩
      · -- what succeeded did not end on such a reply
        obtain ⟨e', he', -⟩ := hx.reports replies r hlast forbids
        rw [hr] at he'
        cases he'

end Exchange

namespace Controller

section Perform

variable {α : Type} (c : Controller)

/-- An operation that got a reply has a plan and a URL, and the reply is the first to come. -/
theorem exists_plan_of_lastReply {op : Operation α} {replies : List Reply} {reply : Reply}
    (hlast : (c.perform op).lastReply replies = some reply) :
    ∃ p url, op.plan = .ok p ∧ c.client.urlFor p.path = .ok url ∧ replyAt replies 0 = reply := by
  have hrequests := c.requests_perform op replies
  cases hplan : op.plan with
  | error e =>
    rw [hplan] at hrequests
    rw [Exchange.lastReply_eq_none hrequests] at hlast
    cases hlast
  | ok p =>
    cases hurl : c.client.urlFor p.path with
    | error e =>
      simp only [hplan, Client.sent, hurl] at hrequests
      rw [Exchange.lastReply_eq_none hrequests] at hlast
      cases hlast
    | ok url =>
      simp only [hplan, Client.sent, hurl] at hrequests
      rw [Exchange.lastReply_eq_some (n := 0) (by rw [hrequests]; rfl)] at hlast
      exact ⟨p, url, rfl, hurl, Option.some.inj hlast⟩

/-- **Every operation recognises a lack of permission.** -/
theorem recognises_perform (op : Operation α) : (c.perform op).Recognises where
  paired := c.paired_perform op
  reports replies r hlast forbids := by
    obtain ⟨p, url, hplan, hurl, hreply⟩ := c.exists_plan_of_lastReply hlast
    rw [eq_cons_of_replyAt_zero hreply, result_perform c hplan hurl,
      Client.answer_of_isRefusal _ forbids.isRefusal]
    have agrees := Operation.plan_agrees hplan
    have reports := Failure.reports_translate agrees.isAnswer r
    rw [agrees.refusal, show r.status = 403 from forbids, op.refusal_forbidden] at reports
    exact ⟨_, rfl, reports⟩

end Perform

section Connect

variable (baseUrl : String) (versions : List String) (timeout : Option Quantity) (verify : Bool)

/-- Asking for the capabilities takes one reply for each request that it sends. -/
theorem paired_readCapabilities (client : Client) : (readCapabilities client).Paired :=
  Exchange.paired_bind (Client.paired_request client .get "version/" "" _ none) fun _ =>
    (Exchange.silent_ofExcept _).paired

/-- Trying one version after the other takes one reply for each request that it sends. -/
theorem paired_tryVersions (last : Option Failure) :
    (tryVersions baseUrl timeout verify last versions).Paired := by
  induction versions generalizing last with
  | nil => exact (Exchange.silent_ofExcept _).paired
  | cons version versions ih =>
    refine Exchange.paired_bind (Client.silent_create _).paired fun _ =>
      Exchange.paired_bind (Exchange.paired_attempt (paired_readCapabilities _)) fun answer => ?_
    cases answer with
    | ok capabilities =>
      exact Exchange.paired_bind (Exchange.silent_log .info logger _).paired fun _ =>
        (Exchange.silent_ofExcept _).paired
    | error e =>
      dsimp only
      split
      · exact Exchange.paired_bind (Client.silent_close _).paired fun _ => ih (some e)
      · exact (Exchange.silent_ofExcept _).paired

/-- Connecting takes one reply for each request. -/
theorem paired_connect : (connect baseUrl versions timeout verify).Paired :=
  paired_tryVersions baseUrl _ timeout verify none

variable {baseUrl versions timeout verify} {replies : List Reply}

/-- A version that cannot be read is no lack of permission. -/
theorem not_isPermissionDenied_of_versionText {text : String} {e : Failure}
    (h : Version.ofText text = .error e) : ¬ e.isPermissionDenied := by
  unfold Version.ofText at h
  split at h <;> cases h <;> exact Bool.false_ne_true

/-- The failure that ends connecting is a lack of permission only if its cause is one. -/
theorem not_isPermissionDenied_connectFailure {last : Option Failure}
    (h : ∀ e ∈ last, ¬ e.isPermissionDenied) : ¬ (connectFailure last).isPermissionDenied := by
  cases last with
  | none => exact Bool.false_ne_true
  | some e =>
    have he := h e rfl
    rwa [connectFailure, Failure.isPermissionDenied, Failure.answersTo_caused, Bool.false_or]

/-- No failure to connect is a lack of permission. -/
theorem not_isPermissionDenied_of_connect {e : Failure}
    (h : ((connect baseUrl versions timeout verify).run replies).result = .error e) :
    ¬ e.isPermissionDenied := by
  obtain ⟨ms, hms, hend⟩ := exists_connect_ending baseUrl versions timeout verify replies
  cases hend with
  | inVain versions_eq follows =>
    rw [follows.result_eq] at h
    cases h
    refine not_isPermissionDenied_connectFailure fun e he => ?_
    rw [lastFailure, Option.or_none] at he
    obtain ⟨m, hm, rfl⟩ := Option.mem_map.1 he
    obtain ⟨i, hi, rfl⟩ := List.mem_iff_getElem.1 (List.mem_of_mem_getLast? hm)
    exact not_isPermissionDenied_of_capabilitiesIn (hms.getElem hi).2
  | unresolved v rest e' versions_eq fails follows =>
    rw [follows.result_eq] at h
    cases h
    obtain ⟨_, rfl⟩ := Client.eq_of_urlFor_eq_error fails
    exact Bool.false_ne_true
  | answered v rest url capabilities versions_eq resolves answers follows =>
    have hresult := follows.result_eq
    dsimp only at hresult
    rw [h, ofClient] at hresult
    cases hv : Version.ofText v with
    | error e' =>
      rw [hv] at hresult
      cases hresult
      exact not_isPermissionDenied_of_versionText hv
    | ok parsed =>
      rw [hv] at hresult
      cases hresult

/-- The reply that names the capabilities is the last one, and it is no refusal. -/
theorem not_isRefusal_of_answered {ms : List Miss} {o : Outcome Controller} {client : Client}
    {url : String} {capabilities : NameSet}
    (hevents : o.events = [.create client, .request (versionRequest client url)])
    (follows : Follows baseUrl timeout verify ms o
      ((connect baseUrl versions timeout verify).run replies))
    (answers : capabilitiesIn (replyAt replies ms.length) = .ok capabilities) {r : Response}
    (hlast : (connect baseUrl versions timeout verify).lastReply replies = some (.response r)) :
    ¬ r.isRefusal := by
  intro refuses
  rw [Exchange.lastReply_eq_some (n := ms.length)
    (by simp [follows.requests_eq, hevents, Event.request?])] at hlast
  rw [Option.some.inj hlast, capabilitiesIn_of_isRefusal refuses] at answers
  cases answers

/-- A controller is there only after a request. -/
theorem requests_ne_nil_of_connect {c : Controller}
    (h : ((connect baseUrl versions timeout verify).run replies).result = .ok c) :
    requests ((connect baseUrl versions timeout verify).run replies).events ≠ [] := by
  obtain ⟨ms, hms, hend⟩ := exists_connect_ending baseUrl versions timeout verify replies
  cases hend with
  | inVain versions_eq follows =>
    rw [follows.result_eq] at h
    cases h
  | unresolved v rest e' versions_eq fails follows =>
    rw [follows.result_eq] at h
    cases h
  | answered v rest url capabilities versions_eq resolves answers follows =>
    simp [follows.requests_eq, Event.request?]

variable {r : Response}
  (hlast : (connect baseUrl versions timeout verify).lastReply replies = some (.response r))
  (refuses : r.isRefusal)
include hlast refuses

/-- Connecting does not succeed on a refusal. -/
theorem exists_error_of_connect :
    ∃ e, ((connect baseUrl versions timeout verify).run replies).result = .error e := by
  obtain ⟨ms, hms, hend⟩ := exists_connect_ending baseUrl versions timeout verify replies
  cases hend with
  | inVain versions_eq follows => exact ⟨_, follows.result_eq⟩
  | unresolved v rest e' versions_eq fails follows => exact ⟨_, follows.result_eq⟩
  | answered v rest url capabilities versions_eq resolves answers follows =>
    exact absurd refuses (not_isRefusal_of_answered rfl follows answers hlast)

/-- The refusal of the only version is the cause of the failure. -/
theorem connect_refused {version : String} (one : candidates versions = [version]) :
    ((connect baseUrl versions timeout verify).run replies).result =
      .error (connectFailure (some (.ofRefusal r))) ∧
    (requests ((connect baseUrl versions timeout verify).run replies).events).length = 1 := by
  obtain ⟨ms, hms, hend⟩ := exists_connect_ending baseUrl versions timeout verify replies
  rw [one] at hend
  cases hend with
  | inVain versions_eq follows =>
    obtain ⟨m, rfl, -⟩ := List.map_eq_singleton_iff.1 versions_eq.symm
    have hone : (requests ((connect baseUrl versions timeout verify).run replies).events).length =
        1 := by simp [follows.requests_eq]
    have hmiss := (hms.getElem Nat.zero_lt_one).2
    rw [Exchange.lastReply_eq_some hone] at hlast
    rw [Option.some.inj hlast, capabilitiesIn_of_isRefusal refuses] at hmiss
    exact ⟨by rw [follows.result_eq, Except.error.inj hmiss]; rfl, hone⟩
  | unresolved v rest e' versions_eq fails follows =>
    -- nothing was sent, so that there is no last reply
    obtain rfl : ms = [] := by
      have hlength := congrArg List.length versions_eq
      simp only [List.length_append, List.length_map, List.length_cons, List.length_nil] at hlength
      exact List.length_eq_zero_iff.1 (by omega)
    rw [Exchange.lastReply_eq_none (by rw [follows.requests_eq]; rfl)] at hlast
    cases hlast
  | answered v rest url capabilities versions_eq resolves answers follows =>
    exact absurd refuses (not_isRefusal_of_answered rfl follows answers hlast)

end Connect

end Controller
end BareMetal
