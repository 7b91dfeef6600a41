/-
# Requests that get no reply

Once the report is connected, a request that gets no reply ends the run with code 1. What the
last error record says depends on the class of the failure, since the report asks first whether a
value is of no use and only later whether there was no reply:

| class of the failure | last error record |
| --- | --- |
| no class of bad values (connection, time, certificate) | `Connection error: ` and the text |
| one of bad values too (a URL, schema or header of no use) | `Configuration error: ` and the text |

The classes are those of the transport, whichever there are (`Transport`). All this is so of the
request for the zones, for the fabrics and for the machines alike (`unanswered_is_recorded`).
-/

import BareMetal.Proofs.Report.Ending

namespace BareMetal

/-- The event is an error record. -/
def Event.isErrorRecord : Event → Bool
  | .log .error _ _ => true
  | _ => false

/-- The last error record of events. -/
def lastErrorRecord (events : List Event) : Option Event :=
  (events.filter Event.isErrorRecord).getLast?

/-- An error record that comes last is the last one. -/
theorem lastErrorRecord_of_getLast? {events : List Event} {logger message : String}
    (h : events.getLast? = some (.log .error logger message)) :
    lastErrorRecord events = some (.log .error logger message) := by
  obtain ⟨before, rfl⟩ := List.getLast?_eq_some_iff.1 h
  rw [lastErrorRecord, List.filter_append]
  exact List.getLast?_concat ..

/-- A request for a list that gets no reply fails for that reason. -/
theorem Client.listing_fault {α : Type} (path : String) (reader : Reader α) (v : Version)
    (t : Transport) (message : String) :
    listing path reader v (.fault t message) = .error (.plain (.transport t) message) := rfl

namespace Report

open Exchange

/-- How the record of a missing reply begins. -/
theorem heading?_transport (t : Transport) (message : String) :
    heading? (.plain (.transport t) message) =
      some (if t.isBadValue then "Configuration error" else "Connection error") := by
  cases bad : t.isBadValue <;>
    simp [heading?, Failure.plain, Failure.kind, FaultKind.isBadValue, FaultKind.isReported,
      FaultKind.isTransport, bad]

section Fetch

variable {settings : Settings} {url : Subject → String}
  (resolves : ∀ subject : Subject, (client settings).urlFor subject.path = .ok (url subject))
  (tried : Controller.candidates settings.apiVersions = ["2.0"])
include resolves tried

/-- Of the requests after the first, the one that gets no reply decides how the fetching ends:
those before it were answered, since else it would not have been sent. -/
theorem result_fetch_of_fault {replies : List Reply} {i : Nat} {t : Transport} {message : String}
    (later : 0 < i) (sent : i < (requests ((fetch settings).run replies).events).length)
    (lost : replyAt replies i = .fault t message) :
    ((fetch settings).run replies).result = .error (.plain (.transport t) message) := by
  obtain ⟨order, next⟩ := course_fetch resolves tried replies
  have known : i < subjects.length := Nat.lt_of_lt_of_le sent (by simpa using order.length_le)
  have answered := (next i known).1 sent
  obtain ⟨c, connects⟩ := exists_connected_iff.2 (answered 0 later)
  rw [result_fetch resolves tried, connects]
  match i, known with
  | 1, _ =>
    rw [lost, Client.listing_fault]
    rfl
  | 2, _ =>
    obtain ⟨zones, hzones⟩ := answered 1 (by decide)
    rw [Client.listing_eq_ok_iff.2 hzones, lost, Client.listing_fault]
    rfl
  | 3, _ =>
    obtain ⟨zones, hzones⟩ := answered 1 (by decide)
    obtain ⟨fabrics, hfabrics⟩ := answered 2 (by decide)
    rw [Client.listing_eq_ok_iff.2 hzones, Client.listing_eq_ok_iff.2 hfabrics, lost,
      Client.listing_fault]
    rfl

end Fetch

/-- What is sent is sent with sound settings, for whose base there is a URL. -/
theorem exists_url_of_requests {env : Environment} {replies : List Reply}
    (sent : requests ((run env).run replies).events ≠ []) :
    ∃ settings, Settings.ofEnvironment env = .ok settings ∧ ∃ url : Subject → String,
      ∀ subject : Subject, (client settings).urlFor subject.path = .ok (url subject) := by
  cases sound : Settings.ofEnvironment env with
  | error e => exact absurd (trace_run_of_unsound sound replies).1 sent
  | ok settings =>
    refine ⟨settings, rfl, exists_url_of_version ?_⟩
    cases version : (client settings).urlFor "version/" with
    | ok found => exact ⟨found, rfl⟩
    | error e =>
      obtain ⟨connects, silent, -⟩ := run_connect settings replies
        (run_controller_connect_of_unresolved sound version replies)
      rw [(trace_run_of_sound sound replies).1, fetch, run_bind_of_result_error connects,
        silent] at sent
      exact absurd rfl sent

/-- **A missing reply is recorded by its class.** If a request of a run after the first one gets
no reply, for a failure of whatever class, then the run ends with code 1. The last error record
says `Connection error` and the text of the failure, unless the class is one of bad values as
well: then it says `Configuration error`. -/
theorem unanswered_is_recorded (env : Environment) (replies : List Reply) (i : Nat)
    (later : 0 < i) (sent : i < (requests ((run env).run replies).events).length)
    (t : Transport) (message : String) (lost : replyAt replies i = .fault t message) :
    ((run env).run replies).result = .ok 1 ∧
      (¬ t.isBadValue → lastErrorRecord ((run env).run replies).events =
        some (.log .error logger s!"Connection error: {message}")) ∧
      (t.isBadValue → lastErrorRecord ((run env).run replies).events =
        some (.log .error logger s!"Configuration error: {message}")) := by
  obtain ⟨settings, sound, url, resolves⟩ :=
    exists_url_of_requests (List.length_pos_iff.1 (Nat.zero_lt_of_lt sent))
  have tried := Settings.candidates_apiVersions sound
  rw [(trace_run_of_sound sound replies).1] at sent
  have fetched := result_fetch_of_fault resolves tried later sent lost
  have fails : ((report env).run replies).result = .error (.plain (.transport t) message) := by
    rw [run_report_of_sound sound, run_bind_of_result_error fetched]
  obtain ⟨code, last⟩ := run_run_of_handled fails (heading?_transport t message)
  have record := lastErrorRecord_of_getLast? last
  refine ⟨code, fun other => ?_, fun same => ?_⟩
  · rw [record, if_neg other]
    rfl
  · rw [record, if_pos same]
    rfl

/-- The version and the zones are there, and the request for the fabrics takes too long. -/
theorem unanswered_is_recorded_timeout :
    let env : Environment := { url := some "http://maas:5240/MAAS" }
    let replies := [.ofText 200 "\x7b\"capabilities\": []\x7d", .ofText 200 "[]",
      .fault ⟨"ReadTimeout", false⟩ "timed out"]
    2 < (requests ((run env).run replies).events).length ∧
      replyAt replies 2 = .fault ⟨"ReadTimeout", false⟩ "timed out" ∧
      ((run env).run replies).result = .ok 1 ∧
      lastErrorRecord ((run env).run replies).events =
        some (.log .error logger "Connection error: timed out") := by
  intro env replies
  have sent : 2 < (requests ((run env).run replies).events).length := by decide +kernel
  obtain ⟨code, record, -⟩ := unanswered_is_recorded env replies 2 (by decide) sent
    ⟨"ReadTimeout", false⟩ "timed out" rfl
  exact ⟨sent, rfl, code, record (by decide)⟩

/-- The request for the zones is led to a URL that is of no use: the record blames the settings,
although they are sound and the connection was made. -/
theorem unanswered_blames_settings :
    let env : Environment := { url := some "http://maas:5240/MAAS" }
    let replies := [.ofText 200 "\x7b\"capabilities\": []\x7d",
      .fault ⟨"InvalidURL", true⟩ "Invalid URL 'http://': No host supplied"]
    (lastErrorRecord ((run env).run replies).events).map Event.lines =
        some ["ERROR live_example: Configuration error: Invalid URL 'http://': No host supplied"] ∧
      ¬ ∀ (env : Environment) (replies : List Reply) (i : Nat) (t : Transport) (message : String),
        0 < i → i < (requests ((run env).run replies).events).length →
          replyAt replies i = .fault t message →
            ((run env).run replies).result = .ok 1 ∧
              lastErrorRecord ((run env).run replies).events =
                some (.log .error logger s!"Connection error: {message}") := by
  intro env replies
  have blames : (lastErrorRecord ((run env).run replies).events).map Event.lines =
      some
        ["ERROR live_example: Configuration error: Invalid URL 'http://': No host supplied"] := by
    decide +kernel
  refine ⟨blames, fun all => ?_⟩
  have sent : 1 < (requests ((run env).run replies).events).length := by decide +kernel
  rw [(all env replies 1 _ _ (by decide) sent rfl).2] at blames
  exact absurd blames (by decide)

end Report
end BareMetal
