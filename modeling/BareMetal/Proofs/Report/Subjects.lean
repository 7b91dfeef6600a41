/-
# What the report asks for

The report asks for the version, the zones, the fabrics and the machines (`Subject`), each
with one request, whose reply alone decides whether the report goes on (`Subject.Answered`).
So a report with settings takes four steps in order (`takes_fetch`).
-/

import BareMetal.Proofs.Http.Address
import BareMetal.Proofs.Http.Steps
import BareMetal.Proofs.Report.Permission
import BareMetal.Proofs.Settings

namespace BareMetal

/-- The reply lists entities: it is no refusal, and its body is JSON that is read as them. -/
def Reply.Contains {α : Type} (reader : Reader α) (v : Version) (reply : Reply) (xs : List α) :
    Prop :=
  ∃ (r : Response) (d : Datum), reply = .response r ∧ ¬ r.isRefusal ∧
    Json.parse (Text.readUtf8 r.body) = .ok d ∧ reader.readList v d = .ok xs

/-- Null is no list of entities. -/
theorem Reader.ne_null_of_readList_eq_ok {α : Type} {r : Reader α} {v : Version} {d : Datum}
    {xs : List α} (h : r.readList v d = .ok xs) : d ≠ .null := by
  rintro rfl
  obtain ⟨items, hitems, -⟩ := bind_eq_ok_iff.1 h
  cases Reader.itemsOf_eq_ok_iff.1 hitems

namespace Client

/-- What is made of a reply to a request for a list of entities. -/
def listing {α : Type} (path : String) (reader : Reader α) (v : Version) (reply : Reply) :
    Except Failure (List α) :=
  ((answer path reply).mapError (·.translate [])).bind (reader.readList v)

/-- Entities are read exactly from a reply that lists them. -/
theorem listing_eq_ok_iff {α : Type} {path : String} {reader : Reader α} {v : Version}
    {reply : Reply} {xs : List α} :
    listing path reader v reply = .ok xs ↔ reply.Contains reader v xs := by
  have succeeds : listing path reader v reply = .ok xs ↔
      ∃ d, answer path reply = .ok d ∧ reader.readList v d = .ok xs :=
    bind_eq_ok_iff.trans (exists_congr fun d => and_congr_left' mapError_eq_ok_iff)
  rw [succeeds]
  cases reply with
  | fault t message => simp [answer, Reply.Contains]
  | response r =>
    by_cases refuses : r.isRefusal
    · simp [answer_of_isRefusal path refuses, Reply.Contains, refuses]
    · have body {d : Datum} (reads : reader.readList v d = .ok xs) :
          readBody path r.body = .ok d ↔ Json.parse (Text.readUtf8 r.body) = .ok d :=
        readBody_eq_ok_iff (Reader.ne_null_of_readList_eq_ok reads)
      rw [answer_of_not_isRefusal path refuses]
      constructor
      · rintro ⟨d, hd, reads⟩
        exact ⟨r, d, rfl, refuses, (body reads).1 hd, reads⟩
      · rintro ⟨_, d, ⟨⟩, -, hparse, reads⟩
        exact ⟨d, (body reads).2 hparse, reads⟩

end Client

namespace Controller

/-- The request for the entities at a URL. -/
theorem reads_perform {α : Type} {c : Controller} {op : Operation (List α)} {reader : Reader α}
    {path url : String} (plan : op.plan = .ok (.list reader path))
    (resolves : c.client.urlFor path = .ok url) :
    (c.perform op).Reads (versionRequest c.client url)
      (Client.listing path reader c.version) := by
  have requests_eq (replies : List Reply) :
      requests ((c.perform op).run replies).events = [versionRequest c.client url] := by
    rw [requests_perform, plan]
    simp [Client.sent, Plan.list, resolves, Plan.request, versionRequest,
      Client.withOperation_empty]
  refine ⟨fun replies => ?_, requests_eq, fun replies => ?_⟩
  · have send : ((c.send (.list reader path)).run replies).result =
        Client.answer path (replyAt replies 0) := by
      have run := c.client.run_request_next resolves .get "" [] none replies
      exact congrArg Outcome.result run
    rw [perform, plan, Exchange.run_ofExcept_ok_bind, result_carryOut, send]
    rfl
  · rw [c.paired_perform op replies, requests_eq]
    exact List.drop_one

end Controller

namespace Report

open Exchange

/-- What the report asks for. -/
inductive Subject where
  | version
  | zones
  | fabrics
  | machines

/-- The subjects in the order in which the report asks for them. -/
def subjects : List Subject := [.version, .zones, .fabrics, .machines]

namespace Subject

/-- The path of a subject. -/
def path : Subject → String
  | version => "version/"
  | zones => "zones/"
  | fabrics => "fabrics/"
  | machines => "machines/"

/-- The reply says what the report asks for. -/
def Answered (subject : Subject) (reply : Reply) : Prop :=
  match subject with
  | version => ∃ names, reply.Lists names
  | zones => ∃ zones, reply.Contains Zone.reader { release := [2, 0] } zones
  | fabrics => ∃ fabrics, reply.Contains Fabric.reader { release := [2, 0] } fabrics
  | machines => ∃ machines, reply.Contains Machine.reader { release := [2, 0] } machines

/-- The path of a subject can be taken apart as a URL, whatever the scheme. -/
theorem exists_split_path (subject : Subject) (scheme : List Char) :
    ∃ u, Url.split scheme subject.path.toList = .ok u := by
  cases subject <;> exact ⟨_, rfl⟩

end Subject

/-- The client of a report with settings. -/
def client (settings : Settings) : Client :=
  Controller.clientFor settings.url (some (.float settings.timeout)) settings.verify "2.0"

/-- The request of a report with settings for a URL. -/
def request (settings : Settings) (url : String) : Request :=
  { verb := .get, url, query := [], form := none, timeout := some (.float settings.timeout),
    verify := settings.verify }

/-- What an attempt to connect comes to on a reply. -/
def connected (settings : Settings) (reply : Reply) : Except Failure Controller :=
  match Controller.capabilitiesIn reply with
  | .ok capabilities => .ok ⟨client settings, { release := [2, 0] }, capabilities⟩
  | .error e => .error (Controller.connectFailure (some e))

/-- What an attempt to connect ends with: a record of the success, or the client is closed. -/
def lastOfConnect (settings : Settings) (reply : Reply) : Event :=
  match Controller.capabilitiesIn reply with
  | .ok _ =>
    .log .info Controller.logger
      s!"✓ Connected to {settings.url} using API {(client settings).apiVersion}"
  | .error _ => .close (client settings)

section Connect

variable {settings : Settings} {url : String}
  (tried : Controller.candidates settings.apiVersions = ["2.0"])
  (resolves : (client settings).urlFor "version/" = .ok url)
include tried resolves

/-- Connecting creates a client, asks for the version, and ends as the reply to that says. -/
theorem run_controller_connect (replies : List Reply) :
    (Controller.connect settings.url settings.apiVersions (some (.float settings.timeout))
      settings.verify).run replies =
      ⟨connected settings (replyAt replies 0),
        .create (client settings) :: .request (request settings url) ::
          (Client.replyRecords "version/" (replyAt replies 0) ++
            [lastOfConnect settings (replyAt replies 0)]),
        replies.tail⟩ := by
  have asked := Controller.run_readCapabilities resolves replies
  rw [Controller.connect, tried, Controller.run_tryVersions_cons rfl asked, connected,
    lastOfConnect]
  cases h : Controller.capabilitiesIn (replyAt replies 0) with
  | ok capabilities => rfl
  | error e =>
    have hope : Controller.isNegotiable e = true := Controller.isNegotiable_of_capabilitiesIn h
    simp only [hope, if_true]
    rfl

/-- Connecting asks for the version, and the reply alone decides how it ends. -/
theorem reads_connect : (connect settings).Reads (request settings url) (connected settings) := by
  have run (replies : List Reply) :=
    run_connect settings replies (run_controller_connect tried resolves replies)
  refine ⟨fun replies => (run replies).1, fun replies => ?_, fun replies => (run replies).2.2⟩
  have last (reply : Reply) : (lastOfConnect settings reply).request? = none := by
    unfold lastOfConnect
    cases Controller.capabilitiesIn reply <;> rfl
  rw [(run replies).2.1, requests_cons, requests_cons, requests_append,
    Client.requests_replyRecords, requests_cons, last]
  rfl

end Connect

/-- There is a controller exactly if the reply answers the question for the version. -/
theorem exists_connected_iff {settings : Settings} {reply : Reply} :
    (∃ c, connected settings reply = .ok c) ↔ Subject.version.Answered reply := by
  rw [Subject.Answered, ← Controller.exists_capabilitiesIn_iff]
  unfold connected
  cases Controller.capabilitiesIn reply <;> simp

/-- The controller of a report has the client of the report, and the version 2.0. -/
theorem eq_of_connected_eq_ok {settings : Settings} {reply : Reply} {c : Controller}
    (h : connected settings reply = .ok c) :
    c.client = client settings ∧ c.version = { release := [2, 0] } := by
  unfold connected at h
  split at h
  · cases h
    exact ⟨rfl, rfl⟩
  · cases h

/-- Recording what the report does is idle. -/
theorem idle_info (message : String) : (info message).Idle :=
  ⟨silent_info message, fun _ => ⟨(), rfl⟩⟩

/-- Printing a line is idle. -/
theorem idle_print (line : String) : (print line).Idle := ⟨silent_print line, fun _ => ⟨(), rfl⟩⟩

/-- What a report with settings does before the summary: it fetches the machines. -/
def fetch (settings : Settings) : Exchange (List Machine) := do
  let controller ← connect settings
  let zones ← controller.perform .zones
  info s!"Found {zones.length} zone(s): {listed (zones.map (·.name))}"
  let fabrics ← controller.perform .fabrics
  fabrics.forM (info <| fabricText ·)
  print ""
  info "Fetching machine list..."
  let machines ← controller.perform (.machines {})
  info s!"Found {machines.length} machine(s)"
  print ""
  return machines

/-- The summary of machines. -/
def summary (machines : List Machine) : Exchange Unit := do
  printAll (banner "Machine Summary")
  machines.forM printMachine

/-- The report loads the settings, fetches the machines and prints the summary. -/
theorem report_eq (env : Environment) :
    report env = load env >>= fun settings => fetch settings >>= summary := by
  unfold report fetch listNetworks listMachines summary
  simp only [bind_assoc]
  rfl

/-- The step in which a report with settings asks for a subject. -/
def step (settings : Settings) (url : Subject → String) (subject : Subject) : Exchange.Step :=
  { request := request settings (url subject), passes := subject.Answered }

section Fetch

variable {settings : Settings} {url : Subject → String}
  (resolves : ∀ subject : Subject, (client settings).urlFor subject.path = .ok (url subject))
include resolves

/-- A list of entities is asked for with one request. -/
theorem reads_listing {α : Type} {c : Controller} {reply : Reply}
    (connects : connected settings reply = .ok c) (op : Operation (List α)) {reader : Reader α}
    (subject : Subject) (plan : op.plan = .ok (.list reader subject.path)) :
    (c.perform op).Reads (request settings (url subject))
      (Client.listing subject.path reader { release := [2, 0] }) := by
  obtain ⟨own, version⟩ := eq_of_connected_eq_ok connects
  have reads := Controller.reads_perform plan (own ▸ resolves subject)
  rwa [own, version] at reads

variable (tried : Controller.candidates settings.apiVersions = ["2.0"])
include tried

/-- To fetch the machines, the subjects are asked for in order. -/
theorem takes_fetch : (fetch settings).Takes (subjects.map (step settings url)) := by
  have reads := reads_connect tried (resolves .version)
  refine reads.takes_bind (fun _ => exists_connected_iff) fun c reply connects => ?_
  have zones := reads_listing resolves connects .zones .zones rfl
  refine zones.takes_bind (fun _ => exists_congr fun _ => Client.listing_eq_ok_iff)
    fun _ _ _ => ?_
  refine (idle_info _).takes_bind fun _ => ?_
  have fabrics := reads_listing resolves connects .fabrics .fabrics rfl
  refine fabrics.takes_bind (fun _ => exists_congr fun _ => Client.listing_eq_ok_iff)
    fun found _ _ => ?_
  refine (idle_forM (fun _ => idle_info _) found).takes_bind fun _ => ?_
  refine (idle_print "").takes_bind fun _ => (idle_info _).takes_bind fun _ => ?_
  have machines := reads_listing resolves connects (.machines {}) .machines rfl
  refine machines.takes_bind (fun _ => exists_congr fun _ => Client.listing_eq_ok_iff)
    fun found _ _ => ?_
  refine (idle_info _).takes_bind fun _ => (idle_print "").takes_bind fun _ => ?_
  exact (silent_pure found).takes

/-- The four replies decide what is fetched. -/
theorem result_fetch (replies : List Reply) :
    ((fetch settings).run replies).result =
      connected settings (replyAt replies 0) >>= fun _ =>
        Client.listing "zones/" Zone.reader { release := [2, 0] } (replyAt replies 1) >>= fun _ =>
          Client.listing "fabrics/" Fabric.reader { release := [2, 0] } (replyAt replies 2) >>=
            fun _ =>
              Client.listing "machines/" Machine.reader { release := [2, 0] }
                (replyAt replies 3) := by
  have reads := reads_connect tried (resolves .version)
  rw [fetch, reads.result_bind]
  refine bind_congr_of_ok fun c connects => ?_
  have zones := reads_listing resolves connects .zones .zones rfl
  have fabrics := reads_listing resolves connects .fabrics .fabrics rfl
  have machines := reads_listing resolves connects (.machines {}) .machines rfl
  rw [zones.result_bind, replyAt_tail]
  refine bind_congr_of_ok fun _ _ => ?_
  rw [(idle_info _).result_bind, fabrics.result_bind, replyAt_tail, replyAt_tail]
  refine bind_congr_of_ok fun found _ => ?_
  rw [(idle_forM (fun _ => idle_info _) found).result_bind, (idle_print "").result_bind,
    (idle_info _).result_bind, machines.result_bind, replyAt_tail, replyAt_tail, replyAt_tail]
  exact bind_pure _

/-- The machines are fetched if the first three replies answer and the last lists them. -/
theorem result_fetch_eq_ok_iff {replies : List Reply} {machines : List Machine} :
    ((fetch settings).run replies).result = .ok machines ↔
      Subject.version.Answered (replyAt replies 0) ∧ Subject.zones.Answered (replyAt replies 1) ∧
        Subject.fabrics.Answered (replyAt replies 2) ∧
          (replyAt replies 3).Contains Machine.reader { release := [2, 0] } machines := by
  rw [result_fetch resolves tried, ← exists_connected_iff ]
  simp only [bind_eq_ok_iff, Client.listing_eq_ok_iff, Subject.Answered]
  constructor
  · rintro ⟨c, connects, zones, hzones, fabrics, hfabrics, hmachines⟩
    exact ⟨⟨c, connects⟩, ⟨zones, hzones⟩, ⟨fabrics, hfabrics⟩, hmachines⟩
  · rintro ⟨⟨c, connects⟩, ⟨zones, hzones⟩, ⟨fabrics, hfabrics⟩, hmachines⟩
    exact ⟨c, connects, zones, hzones, fabrics, hfabrics, hmachines⟩

/-- What happens in the attempt to connect, before what is told of its success. -/
theorem exists_events_connect (replies : List Reply) :
    ∃ later, ((connect settings).run replies).events =
        .log .info logger "Connecting to MAAS controller..." :: .create (client settings) ::
          .request (request settings (url .version)) ::
            (Client.replyRecords "version/" (replyAt replies 0) ++
              [lastOfConnect settings (replyAt replies 0)]) ++ later ∧
      ∀ e ∈ later, (∃ message, e = .log .info logger message) ∨ e = .print "" := by
  have hinfo : (info "Connecting to MAAS controller...").run replies =
      ⟨.ok (), [.log .info logger "Connecting to MAAS controller..."], replies⟩ := rfl
  rw [connect, run_bind_of_ok hinfo, run_bind,
    run_controller_connect tried (resolves .version) replies]
  cases connected settings (replyAt replies 0) with
  | error e => exact ⟨[], by simp, by simp⟩
  | ok c =>
    refine ⟨[.log .info logger s!"  Capabilities: {listed c.capabilities.names}", .print ""],
      rfl, ?_⟩
    simp

end Fetch

end Report
end BareMetal
