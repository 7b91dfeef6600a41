/-
# What becomes of a lack of permission

There are two ways to ask a controller for something: to connect to it, and to perform an
operation (`Call`). When the last reply to a call forbids the request, the failure says so
if the call is an operation, and does not if it is an attempt to connect. For the same
reason the report asks to check the credentials if the zones, the fabrics or the machines
are forbidden, and not if the version is (`forbidden_iff_operation`).
-/

import BareMetal.Proofs.Report.Run

namespace BareMetal

/-- A way to ask a controller for something. -/
inductive Call : Type → Type 1 where
  | connect (baseUrl : String) (versions : List String) (timeout : Option Quantity)
      (verify : Bool) : Call Controller
  | operation {α : Type} (c : Controller) (op : Operation α) : Call α

namespace Call

variable {α : Type}

/-- Carries out a call. -/
def exchange {α : Type} : Call α → Exchange α
  | connect baseUrl versions timeout verify =>
    Controller.connect baseUrl versions timeout verify
  | operation c op => c.perform op

/-- The call is an operation of a controller that is connected already. -/
def isOperation : Call α → Bool
  | connect .. => false
  | operation .. => true

/-- On a reply that forbids the request a call fails, and its failure says why exactly if
the call is an operation. -/
theorem forbidden_iff_isOperation (call : Call α) {replies : List Reply} {r : Response}
    (hlast : call.exchange.lastReply replies = some (.response r)) (forbids : r.Forbids) :
    ∃ e, (call.exchange.run replies).result = .error e ∧
      (e.isPermissionDenied ↔ call.isOperation) := by
  cases call with
  | connect baseUrl versions timeout verify =>
    obtain ⟨e, he⟩ := Controller.exists_error_of_connect hlast forbids.isRefusal
    exact ⟨e, he, iff_of_false (Controller.not_isPermissionDenied_of_connect he) nofun⟩
  | operation c op =>
    obtain ⟨e, he, reports⟩ := (c.recognises_perform op).reports replies r hlast forbids
    exact ⟨e, he, iff_of_true reports.isPermissionDenied rfl⟩

end Call

namespace Report

open Exchange

/-- Listing the zones and the fabrics recognises a lack of permission. -/
theorem recognises_listNetworks (controller : Controller) : (listNetworks controller).Recognises :=
  recognises_bind (controller.recognises_perform .zones) fun _ =>
    recognises_bind (silent_info _).recognises fun _ =>
      recognises_bind (controller.recognises_perform .fabrics) fun fabrics =>
        recognises_bind (silent_forM (fun _ => silent_info _) fabrics).recognises fun _ =>
          (silent_print "").recognises

/-- Listing the machines recognises a lack of permission. -/
theorem recognises_listMachines (controller : Controller) : (listMachines controller).Recognises :=
  recognises_bind (silent_info _).recognises fun _ =>
    recognises_bind (controller.recognises_perform (.machines {})) fun machines =>
      recognises_bind (silent_info _).recognises fun _ =>
        recognises_bind (silent_print "").recognises fun _ =>
          recognises_bind (silent_printAll _).recognises fun _ =>
            (silent_forM silent_printMachine machines).recognises

/-- The settings name one version. -/
theorem exists_candidates_eq (settings : Settings) :
    ∃ version, Controller.candidates settings.apiVersions = [version] := by
  unfold Settings.apiVersions
  cases settings.apiVersion with
  | none => exact ⟨_, rfl⟩
  | some version => exact ⟨version, rfl⟩

/-- The part of the report that connects sends what the attempt to connect sends, and ends
with the same result. -/
theorem run_connect (settings : Settings) (replies : List Reply) {o : Outcome Controller}
    (ho : (Controller.connect settings.url settings.apiVersions
      (some (.float settings.timeout)) settings.verify).run replies = o) :
    ((connect settings).run replies).result = o.result ∧
      requests ((connect settings).run replies).events = requests o.events ∧
      ((connect settings).run replies).left = o.left := by
  have hinfo : (info "Connecting to MAAS controller...").run replies =
      ⟨.ok (), [.log .info logger "Connecting to MAAS controller..."], replies⟩ := rfl
  rw [connect, run_bind_of_ok hinfo, run_bind, ho]
  rcases o with ⟨e | c, events, left⟩
  · exact ⟨rfl, rfl, rfl⟩
  · refine ⟨rfl, ?_, rfl⟩
    rw [requests_append, requests_append]
    exact List.append_nil _

/-- Connecting takes one reply for each request that it sends, for the report as well. -/
theorem paired_connect (settings : Settings) : (connect settings).Paired := by
  intro replies
  obtain ⟨-, hrequests, hleft⟩ := run_connect settings replies rfl
  rw [hrequests, hleft]
  exact Controller.paired_connect _ _ _ _ replies

/-- All that the report does once it has settings. -/
theorem connect_bind_forbidden (settings : Settings) {replies : List Reply} {r : Response}
    {rest : Controller → Exchange Unit} (hrest : ∀ c, (rest c).Recognises)
    (hlast : (connect settings >>= rest).lastReply replies = some (.response r))
    (forbids : r.Forbids) :
    ∃ e, ((connect settings >>= rest).run replies).result = .error e ∧
      ((requests ((connect settings >>= rest).run replies).events).length = 1 ∧
          e = Controller.connectFailure (some (.ofRefusal r)) ∨
        (requests ((connect settings >>= rest).run replies).events).length ≠ 1 ∧
          e.Reports .permissionDenied r) := by
  obtain ⟨version, one⟩ := exists_candidates_eq settings
  obtain ⟨hresult, hrequests, -⟩ := run_connect settings replies rfl
  cases hc : ((connect settings).run replies).result with
  | error e =>
    rw [lastReply_bind_of_error hc, lastReply_congr hrequests] at hlast
    obtain ⟨hfail, hone⟩ := Controller.connect_refused hlast forbids.isRefusal one
    rw [run_bind_of_result_error hc]
    refine ⟨e, rfl, .inl ⟨by rw [hrequests, hone], ?_⟩⟩
    exact Except.error.inj (hc.symm.trans (hresult.trans hfail))
  | ok c =>
    rw [lastReply_bind_of_ok (paired_connect settings) hc] at hlast
    have hconnected : requests ((connect settings).run replies).events ≠ [] := by
      rw [hrequests]
      exact Controller.requests_ne_nil_of_connect (hresult.symm.trans hc)
    rcases Option.or_eq_some_iff.1 hlast with hlast | ⟨-, hlast⟩
    · obtain ⟨e, he, reports⟩ := (hrest c).reports _ r hlast forbids
      have hfirst := List.length_pos_iff.2 hconnected
      have hlater := List.length_pos_iff.2 (requests_ne_nil_of_lastReply hlast)
      rw [run_bind_of_result_ok hc, requests_append, List.length_append]
      exact ⟨e, he, .inr ⟨by omega, reports⟩⟩
    · -- what connects does not end on a refusal
      rw [lastReply_congr hrequests] at hlast
      obtain ⟨e, he⟩ := Controller.exists_error_of_connect hlast forbids.isRefusal
      rw [hc, he] at hresult
      cases hresult

/-- The only request of a report that ends on a forbidden one is that for the version, or
the failure says that a permission is lacking. -/
theorem report_forbidden {env : Environment} {replies : List Reply} {r : Response}
    (hlast : (report env).lastReply replies = some (.response r)) (forbids : r.Forbids) :
    ∃ e, ((report env).run replies).result = .error e ∧
      ((requests ((report env).run replies).events).length = 1 ∧
          e = Controller.connectFailure (some (.ofRefusal r)) ∨
        (requests ((report env).run replies).events).length ≠ 1 ∧
          e.Reports .permissionDenied r) := by
  obtain ⟨hnothing, hleft⟩ := silent_load env replies
  cases hload : ((load env).run replies).result with
  | error e =>
    rw [report, lastReply_bind_of_error hload, lastReply_eq_none hnothing] at hlast
    cases hlast
  | ok settings =>
    rw [report, lastReply_bind_of_ok (silent_load env).paired hload, lastReply_eq_none hnothing,
      Option.or_none, hleft] at hlast
    rw [report, run_bind_of_result_ok hload, hleft, requests_append, hnothing, List.nil_append]
    refine connect_bind_forbidden settings (fun c => ?_) hlast forbids
    exact recognises_bind (recognises_listNetworks c) fun _ => recognises_listMachines c

/-- **Who is told that a permission is lacking.** On a reply with the status 403 every call
fails; the failure is a lack of permission exactly if the call is an operation. A report that
ends on such a reply ends with the code 1, and its last record asks to check the credentials,
unless the reply was the one to the request for the version. -/
theorem forbidden_iff_operation (r : Response) (forbidden : r.status = 403)
    (replies : List Reply) :
    (∀ {α : Type} (call : Call α),
      call.exchange.lastReply replies = some (.response r) →
        ∃ e, (call.exchange.run replies).result = .error e ∧
          (e.isPermissionDenied ↔ call.isOperation)) ∧
    ∀ env, (run env).lastReply replies = some (.response r) →
      ((run env).run replies).result = .ok 1 ∧
      ((run env).run replies).events.getLast? = some (.log .error logger
        (if (requests ((run env).run replies).events).length = 1
          then "MAAS error: unable to create authenticated client"
          else s!"Permission denied, check credentials: {r.text}")) := by
  refine ⟨fun call hlast => call.forbidden_iff_isOperation hlast forbidden, fun env hlast => ?_⟩
  rw [lastReply_congr (requests_run env replies)] at hlast
  obtain ⟨e, he, ⟨hone, rfl⟩ | ⟨hmore, reports⟩⟩ := report_forbidden hlast forbidden
  · rw [requests_run, if_pos hone]
    exact run_run_of_handled he rfl
  · have hkind : e.kind = .permissionDenied := reports.kind_eq
    have handled : heading? e = some "Permission denied, check credentials" := by
      simp [heading?, hkind, FaultKind.isBadValue, FaultKind.isReported,
        reports.isPermissionDenied]
    rw [requests_run, if_neg hmore, ← show e.message = r.text from reports.message_eq]
    exact run_run_of_handled he handled

/-- The version is there, and the zones are forbidden. -/
theorem forbidden_zones :
    let denied : Response := { status := 403, body := "denied".toUTF8.toList }
    let controller : Controller :=
      ⟨{ baseUrl := "http://maas:5240/MAAS" }, { release := [2, 0] }, .empty⟩
    let env : Environment := { url := some "http://maas:5240/MAAS" }
    let replies := [.ofText 200 "\x7b\"capabilities\": []\x7d", .response denied]
    denied.status = 403 ∧
    (controller.perform .zones).lastReply [.response denied] = some (.response denied) ∧
    (∃ e, ((controller.perform .zones).run [.response denied]).result = .error e ∧
      e.isPermissionDenied) ∧
    (run env).lastReply replies = some (.response denied) ∧
    ((run env).run replies).result = .ok 1 ∧
    ((run env).run replies).events.getLast? =
      some (.log .error logger "Permission denied, check credentials: denied") := by
  intro denied controller env replies
  have hzones : (controller.perform .zones).lastReply [.response denied] =
      some (.response denied) := by cbv
  have hrun : (run env).lastReply replies = some (.response denied) := by decide +kernel
  have hlength : (requests ((run env).run replies).events).length ≠ 1 := by decide +kernel
  have htext : denied.text = "denied" := by cbv
  obtain ⟨e, he, hiff⟩ := (forbidden_iff_operation denied rfl [.response denied]).1
    (.operation controller .zones) hzones
  obtain ⟨hcode, hrecord⟩ := (forbidden_iff_operation denied rfl replies).2 env hrun
  rw [if_neg hlength, htext] at hrecord
  exact ⟨rfl, hzones, ⟨e, he, hiff.2 rfl⟩, hrun, hcode, hrecord⟩

/-- The version is forbidden: the failure to connect is no lack of permission, and the report
does not ask to check the credentials. -/
theorem connect_forbidden_unrecognised :
    let x := Controller.connect "http://maas:5240/MAAS"
    let env : Environment := { url := some "http://maas:5240/MAAS" }
    let replies := [.ofText 403 "denied"]
    x.lastReply replies = some (.ofText 403 "denied") ∧
    (∃ e, (x.run replies).result = .error e ∧ ¬ e.isPermissionDenied) ∧
    (run env).lastReply replies = some (.ofText 403 "denied") ∧
    ((run env).run replies).events.getLast?.map Event.lines =
      some ["ERROR live_example: MAAS error: unable to create authenticated client"] := by
  intro x env replies
  have hfails : (x.run replies).result = .error (Controller.connectFailure
      (some (.server 403 (some "OK") "denied"))) := by cbv
  exact ⟨by decide +kernel, ⟨_, hfails, by decide⟩, by decide +kernel, by decide +kernel⟩

end Report
end BareMetal
