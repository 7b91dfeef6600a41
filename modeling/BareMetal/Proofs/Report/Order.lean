/-
# The order in which the report reads

A report sends nothing unless its settings are sound. Then it asks for its subjects in order,
one request each, and stops at the first reply that does not answer; its client is closed if
that is the first reply, and else stays open. If it ends with code 0, all replies answered,
and what it prints last is the summary of the machines that the last one lists
(`reads_in_order`).

The texts of a machine are read with U+FFFD for an escaped half of a surrogate pair
(`Json.ofCode`), and the summary shows them as they were read.
-/

import BareMetal.Proofs.Report.Subjects
import BareMetal.Proofs.Report.Summary

namespace BareMetal
namespace Report

open Exchange

/-- The events end with the summary of machines: its title, which is not printed before, and a
block for each machine in order. -/
def EndsInSummary (machines : List Machine) (events : List Event) : Prop :=
  ∃ before blocks, List.Forall₂ Block machines blocks ∧
    events = before ++ (banner "Machine Summary" ++ blocks.flatten).map .print ∧
      .print "Machine Summary" ∉ before

/-- The summary prints a block for each machine, or something is too great. -/
theorem renders_summary (machines : List Machine) :
    Renders (summary machines)
      (fun ls => ∃ blocks, List.Forall₂ Block machines blocks ∧
        ls = banner "Machine Summary" ++ blocks.flatten)
      (∃ m ∈ machines, TooGreat m) := by
  have blocks := renders_forM renders_printMachine machines
  refine ((renders_printAll _).bind blocks).congr ?_ (by simp)
  rintro _ ⟨_, _, rfl, ⟨blocks, hblocks, rfl⟩, rfl⟩
  exact ⟨blocks, hblocks, rfl⟩

/-- Printing the summary sends nothing and takes no reply. -/
theorem silent_summary (machines : List Machine) : (summary machines).Silent :=
  silent_bind (silent_printAll _) fun _ => silent_forM silent_printMachine machines

/-- The event neither creates nor closes a client. -/
structure IsClientless (e : Event) : Prop where
  created? : e.created? = none
  closed? : e.closed? = none

/-- The event does not begin the summary either. -/
structure IsPlain (e : Event) : Prop extends IsClientless e where
  untitled : e ≠ .print "Machine Summary"

/-- A request is plain. -/
theorem isPlain_request (r : Request) : IsPlain (.request r) := ⟨⟨rfl, rfl⟩, nofun⟩

/-- A record in the log is plain. -/
theorem isPlain_log (level : Level) (logger message : String) :
    IsPlain (.log level logger message) := ⟨⟨rfl, rfl⟩, nofun⟩

/-- A printed line is plain unless it is the title of the summary. -/
theorem isPlain_print {line : String} (other : line ≠ "Machine Summary") :
    IsPlain (.print line) := ⟨⟨rfl, rfl⟩, fun same => other (Event.print.inj same)⟩

/-- What is recorded of a reply is plain. -/
theorem isPlain_replyRecords (path : String) (reply : Reply) :
    ∀ e ∈ Client.replyRecords path reply, IsPlain e := by
  cases reply with
  | fault t message => exact List.forall_mem_singleton.2 (isPlain_log _ _ _)
  | response r => exact nofun

/-- Where nothing touches a client none is created. -/
theorem created_eq_nil {events : List Event} (h : ∀ e ∈ events, IsClientless e) :
    created events = [] := List.filterMap_eq_nil_iff.2 fun e he => (h e he).created?

/-- Where nothing touches a client none is closed. -/
theorem closed_eq_nil {events : List Event} (h : ∀ e ∈ events, IsClientless e) :
    closed events = [] := List.filterMap_eq_nil_iff.2 fun e he => (h e he).closed?

/-- Recording what the report does is plain. -/
theorem plain_info (message : String) : (info message).Emits IsPlain :=
  emits_emit (isPlain_log _ _ _)

/-- An empty line is plain. -/
theorem plain_blank : (print "").Emits IsPlain := emits_emit (isPlain_print (by decide))

/-- All that happens while the settings are loaded is plain. -/
theorem plain_load (env : Environment) : (load env).Emits IsPlain :=
  emits_bind (plain_info _) fun _ =>
    emits_bind (emits_ofExcept _) fun _ =>
      emits_bind (plain_info _) fun _ =>
        emits_bind (plain_info _) fun _ =>
          emits_bind (plain_info _) fun _ =>
            emits_bind plain_blank fun _ => emits_pure _

/-- The title of the report is not that of the summary. -/
theorem isPlain_title : ∀ e ∈ title, IsPlain e := by
  intro e he
  obtain ⟨line, hline, rfl⟩ := List.mem_map.1 he
  refine isPlain_print ?_
  rintro rfl
  exact absurd hline (by decide)

/-- Loading ends as reading the settings from the environment does. -/
theorem result_load (env : Environment) (replies : List Reply) :
    ((load env).run replies).result = Settings.ofEnvironment env := by
  have hinfo : (info "Loading configuration...").run replies =
      ⟨.ok (), [.log .info logger "Loading configuration..."], replies⟩ := rfl
  rw [load, run_bind_of_ok hinfo, run_bind, run_ofExcept]
  cases Settings.ofEnvironment env <;> rfl

/-- How the run ends, given how the chain of its parts does. -/
theorem result_run (env : Environment) (replies : List Reply) :
    ((run env).run replies).result =
      match ((report env).run replies).result with
      | .ok () => .ok 0
      | .error e => if (heading? e).isSome then .ok 1 else .error e := by
  rw [run_run rfl rfl]
  cases ((report env).run replies).result with
  | ok _ => rfl
  | error e =>
    unfold exitCode
    dsimp only
    cases heading? e <;> rfl

/-- Printing a line touches no client. -/
theorem clientless_print (line : String) : (print line).Emits IsClientless :=
  emits_emit ⟨rfl, rfl⟩

/-- Printing a line that may fail touches no client. -/
theorem clientless_printLine (line : Except Failure String) :
    (printLine line).Emits IsClientless :=
  emits_bind (emits_ofExcept _) clientless_print

/-- Printing lines touches no client. -/
theorem clientless_printAll (lines : List String) : (printAll lines).Emits IsClientless :=
  emits_forM clientless_print lines

/-- Printing a block device touches no client. -/
theorem clientless_printDisk (d : BlockDevice) : (printDisk d).Emits IsClientless :=
  emits_bind (clientless_printLine _) fun _ =>
    emits_forM (fun _ => clientless_printLine _) d.partitions

/-- Printing a machine touches no client. -/
theorem clientless_printMachine (m : Machine) : (printMachine m).Emits IsClientless :=
  emits_bind (clientless_printAll _) fun _ =>
    emits_bind (emits_forM clientless_printDisk m.blockDevices) fun _ => clientless_print ""

/-- Printing the summary touches no client. -/
theorem clientless_summary (machines : List Machine) : (summary machines).Emits IsClientless :=
  emits_bind (clientless_printAll _) fun _ => emits_forM clientless_printMachine machines

/-- Ending with a code touches no client, since what it records of a failure is a message. -/
theorem clientless_exitCode (result : Except Failure Unit) :
    (exitCode result).Emits IsClientless := by
  cases result with
  | ok _ => exact emits_pure 0
  | error e =>
    unfold exitCode
    dsimp only
    split
    · exact emits_bind (emits_emit ⟨rfl, rfl⟩) fun _ => emits_pure 1
    · exact emits_ofExcept _

/-- The clients that a run creates and closes are those of the chain of its parts. -/
theorem clients_run (env : Environment) (replies : List Reply) :
    created ((run env).run replies).events = created ((report env).run replies).events ∧
      closed ((run env).run replies).events = closed ((report env).run replies).events := by
  have exits := clientless_exitCode ((report env).run replies).result ((report env).run replies).left
  have begins : ∀ e ∈ title, IsClientless e := fun e he => (isPlain_title e he).toIsClientless
  rw [run_run rfl rfl]
  simp [created_eq_nil begins, closed_eq_nil begins, created_eq_nil exits, closed_eq_nil exits]

/-- Without sound settings nothing is sent, and there is no client. -/
theorem trace_run_of_unsound {env : Environment} {e : Failure}
    (unsound : Settings.ofEnvironment env = .error e) (replies : List Reply) :
    requests ((run env).run replies).events = [] ∧
      created ((run env).run replies).events = [] ∧
      closed ((run env).run replies).events = [] := by
  have fails := (result_load env replies).trans unsound
  have loads : ∀ e ∈ ((load env).run replies).events, IsClientless e := fun e he =>
    (plain_load env replies e he).toIsClientless
  rw [requests_run, (clients_run env replies).1, (clients_run env replies).2, report_eq,
    run_bind_of_result_error fails]
  exact ⟨(silent_load env replies).1, created_eq_nil loads, closed_eq_nil loads⟩

section Sound

variable {env : Environment} {settings : Settings}
  (sound : Settings.ofEnvironment env = .ok settings)
include sound

/-- With sound settings the report fetches the machines and prints their summary. -/
theorem run_report_of_sound (replies : List Reply) :
    (report env).run replies =
      ⟨((fetch settings >>= summary).run replies).result,
        ((load env).run replies).events ++ ((fetch settings >>= summary).run replies).events,
        ((fetch settings >>= summary).run replies).left⟩ := by
  have loads := (result_load env replies).trans sound
  rw [report_eq, run_bind_of_result_ok loads, (silent_load env replies).2]

/-- With sound settings a run sends what is sent to fetch the machines, and creates and closes
the same clients. -/
theorem trace_run_of_sound (replies : List Reply) :
    requests ((run env).run replies).events = requests ((fetch settings).run replies).events ∧
      created ((run env).run replies).events = created ((fetch settings).run replies).events ∧
      closed ((run env).run replies).events = closed ((fetch settings).run replies).events := by
  have loads : ∀ e ∈ ((load env).run replies).events, IsClientless e := fun e he =>
    (plain_load env replies e he).toIsClientless
  have body : created ((fetch settings >>= summary).run replies).events =
        created ((fetch settings).run replies).events ∧
      closed ((fetch settings >>= summary).run replies).events =
        closed ((fetch settings).run replies).events := by
    cases h : ((fetch settings).run replies).result with
    | error e => simp [run_bind_of_result_error h]
    | ok machines =>
      have rest := clientless_summary machines ((fetch settings).run replies).left
      simp [run_bind_of_result_ok h, created_eq_nil rest, closed_eq_nil rest]
  rw [requests_run, (clients_run env replies).1, (clients_run env replies).2,
    run_report_of_sound sound, requests_append, created_append, closed_append,
    (silent_load env replies).1, created_eq_nil loads, closed_eq_nil loads,
    (run_bind_of_silent silent_summary _ replies).1]
  exact ⟨rfl, body⟩

end Sound

section Fetch

variable {settings : Settings} {url : Subject → String}
  (resolves : ∀ subject : Subject, (client settings).urlFor subject.path = .ok (url subject))
  (tried : Controller.candidates settings.apiVersions = ["2.0"])
include resolves tried

/-- What happens to fetch the machines: the attempt to connect comes first, and all that
follows is plain. -/
theorem exists_events_fetch (replies : List Reply) :
    ∃ rest, ((fetch settings).run replies).events =
        .log .info logger "Connecting to MAAS controller..." :: .create (client settings) ::
          .request (request settings (url .version)) ::
            (Client.replyRecords "version/" (replyAt replies 0) ++
              [lastOfConnect settings (replyAt replies 0)]) ++ rest ∧
      ∀ e ∈ rest, IsPlain e := by
  obtain ⟨later, hevents, hlater⟩ := exists_events_connect resolves tried replies
  have plain : ∀ e ∈ later, IsPlain e := by
    intro e he
    rcases hlater e he with ⟨message, rfl⟩ | rfl
    · exact isPlain_log _ _ _
    · exact isPlain_print (by decide)
  rw [fetch]
  cases connects : ((connect settings).run replies).result with
  | error e =>
    rw [run_bind_of_result_error connects, hevents]
    exact ⟨later, rfl, plain⟩
  | ok c =>
    have performs {α : Type} (op : Operation α) : (c.perform op).Emits IsPlain :=
      c.emits_perform isPlain_request isPlain_log op
    rw [run_bind_of_result_ok connects, hevents]
    refine ⟨later ++ _, List.append_assoc _ _ _, List.forall_mem_append.2 ⟨plain, ?_⟩⟩
    exact emits_bind (performs _) (fun _ => emits_bind (plain_info _) fun _ =>
      emits_bind (performs _) fun found => emits_bind (emits_forM (fun _ => plain_info _) found)
        fun _ => emits_bind plain_blank fun _ => emits_bind (plain_info _) fun _ =>
          emits_bind (performs _) fun _ => emits_bind (plain_info _) fun _ =>
            emits_bind plain_blank fun _ => emits_pure _) _

/-- The client is created, and closed exactly if the first reply does not answer. -/
theorem clients_fetch (replies : List Reply) :
    created ((fetch settings).run replies).events = [client settings] ∧
      (Subject.version.Answered (replyAt replies 0) →
        closed ((fetch settings).run replies).events = []) ∧
      (¬ Subject.version.Answered (replyAt replies 0) →
        closed ((fetch settings).run replies).events = [client settings]) := by
  obtain ⟨rest, hevents, hrest⟩ := exists_events_fetch resolves tried replies
  have plain : ∀ e ∈ rest, IsClientless e := fun e he => (hrest e he).toIsClientless
  have answered : Subject.version.Answered (replyAt replies 0) ↔
      ∃ c, connected settings (replyAt replies 0) = .ok c := exists_connected_iff.symm
  rw [hevents, answered]
  unfold lastOfConnect connected
  cases Controller.capabilitiesIn (replyAt replies 0) <;>
    simp [Event.created?, Event.closed?, Client.created_replyRecords, Client.closed_replyRecords,
      created_eq_nil plain, closed_eq_nil plain]

/-- While the machines are fetched the title of the summary is not printed. -/
theorem untitled_fetch (replies : List Reply) :
    .print "Machine Summary" ∉ ((fetch settings).run replies).events := by
  obtain ⟨rest, hevents, hrest⟩ := exists_events_fetch resolves tried replies
  have later : .print "Machine Summary" ∉ rest := fun h => (hrest _ h).untitled rfl
  have records : .print "Machine Summary" ∉ Client.replyRecords "version/" (replyAt replies 0) :=
    fun h => (isPlain_replyRecords _ _ _ h).untitled rfl
  have last : .print "Machine Summary" ≠ lastOfConnect settings (replyAt replies 0) := by
    unfold lastOfConnect
    cases Controller.capabilitiesIn (replyAt replies 0) <;> nofun
  simp [hevents, later, records, last]

/-- The requests to fetch the machines are those of the subjects in order, and the next one is
sent exactly if all replies so far answer. -/
theorem course_fetch (replies : List Reply) :
    requests ((fetch settings).run replies).events <+:
        subjects.map (fun subject => request settings (url subject)) ∧
      ∀ i (_ : i < subjects.length), i < (requests ((fetch settings).run replies).events).length ↔
        ∀ j (_ : j < i), (subjects[j]).Answered (replyAt replies j) := by
  have course := takes_fetch resolves tried replies
  refine ⟨by simpa [step, Function.comp_def] using course.isPrefix, fun i hi => ?_⟩
  simpa [step] using course.lt_length_iff (by simpa using hi)

/-- If the machines are fetched, all four subjects were asked for and answered. -/
theorem all_answered_of_fetch {replies : List Reply} {machines : List Machine}
    (fetched : ((fetch settings).run replies).result = .ok machines) :
    (requests ((fetch settings).run replies).events).length = 4 ∧
      (∀ i (_ : i < subjects.length), (subjects[i]).Answered (replyAt replies i)) ∧
      (replyAt replies 3).Contains Machine.reader { release := [2, 0] } machines := by
  obtain ⟨hversion, hzones, hfabrics, hmachines⟩ :=
    (result_fetch_eq_ok_iff resolves tried).1 fetched
  have answers : ∀ i (_ : i < subjects.length), (subjects[i]).Answered (replyAt replies i)
    | 0, _ => hversion
    | 1, _ => hzones
    | 2, _ => hfabrics
    | 3, _ => ⟨machines, hmachines⟩
  obtain ⟨sent, next⟩ := course_fetch resolves tried replies
  have most : (requests ((fetch settings).run replies).events).length ≤ 4 := sent.length_le
  have least := (next 3 (by decide)).2 fun j hj => answers j (Nat.lt_of_lt_of_le hj (by decide))
  exact ⟨Nat.le_antisymm most least, answers, hmachines⟩

end Fetch

/-- The URL of a path depends on the URL of the site only. -/
theorem urlFor_client (settings : Settings) (path : String) :
    (client settings).urlFor path = ({ baseUrl := settings.url } : Client).urlFor path := by
  have api : (client settings).apiUrl = ({ baseUrl := settings.url } : Client).apiUrl := rfl
  rw [Client.urlFor, Client.urlFor, api]

/-- If there is a URL for the version, there is one for each subject. -/
theorem exists_url_of_version {settings : Settings}
    (version : ∃ found, (client settings).urlFor "version/" = .ok found) :
    ∃ url : Subject → String,
      ∀ subject : Subject, (client settings).urlFor subject.path = .ok (url subject) := by
  have each (subject : Subject) : ∃ found, (client settings).urlFor subject.path = .ok found :=
    Client.exists_urlFor (by decide) (by cases subject <;> decide) version
      subject.exists_split_path
  exact ⟨fun subject => (each subject).choose, fun subject => (each subject).choose_spec⟩

/-- If the version has a URL on the site of the environment, every subject has one for the
settings. -/
theorem exists_url_of_base {env : Environment} {settings : Settings}
    (sound : Settings.ofEnvironment env = .ok settings)
    (base : ∀ url ∈ env.url, ∃ found, ({ baseUrl := url } : Client).urlFor "version/" = .ok found) :
    ∃ url : Subject → String,
      ∀ subject : Subject, (client settings).urlFor subject.path = .ok (url subject) := by
  refine exists_url_of_version ?_
  rw [urlFor_client]
  exact base settings.url (Settings.ofEnvironment_eq_ok sound).1

/-- A run ends with code 0 exactly after a success, and nothing more happens. -/
theorem run_of_result_eq {env : Environment} {replies : List Reply}
    (success : ((run env).run replies).result = .ok 0) :
    ((report env).run replies).result = .ok () ∧
      ((run env).run replies).events = title ++ ((report env).run replies).events := by
  rw [result_run] at success
  cases reported : ((report env).run replies).result with
  | ok _ =>
    refine ⟨rfl, ?_⟩
    rw [run_run rfl rfl, reported]
    exact congrArg (title ++ ·) (List.append_nil _)
  | error e =>
    rw [reported] at success
    dsimp only at success
    split at success <;> cases success

/-- A report that succeeds prints the machines that it fetched. -/
theorem report_of_result_eq {env : Environment} {replies : List Reply}
    (reported : ((report env).run replies).result = .ok ()) :
    ∃ settings machines blocks, Settings.ofEnvironment env = .ok settings ∧
      ((fetch settings).run replies).result = .ok machines ∧
      List.Forall₂ Block machines blocks ∧
      ((report env).run replies).events =
        ((load env).run replies).events ++ (((fetch settings).run replies).events ++
          (banner "Machine Summary" ++ blocks.flatten).map .print) := by
  cases sound : Settings.ofEnvironment env with
  | error e =>
    rw [report_eq, run_bind_of_result_error ((result_load env replies).trans sound)] at reported
    cases reported
  | ok settings =>
    rw [run_report_of_sound sound] at reported ⊢
    cases fetched : ((fetch settings).run replies).result with
    | error e =>
      rw [run_bind_of_result_error fetched] at reported
      cases reported
    | ok machines =>
      have printed := renders_summary machines
      rw [run_bind_of_result_ok fetched] at reported ⊢
      have small : ¬ ∃ m ∈ machines, TooGreat m := fun great =>
        nomatch reported.symm.trans (printed.fails great _)
      obtain ⟨_, ⟨blocks, hblocks, rfl⟩, prints⟩ := printed.prints small
      exact ⟨settings, machines, blocks, rfl, fetched, hblocks, by rw [prints]⟩

/-- **What the report reads, and when it stops.** Without sound settings nothing is sent. With
them a prefix of four requests is sent, for the version, the zones, the fabrics and the machines
at 2.0, each with the timeout and the flag of the settings; the next one is sent exactly if all
replies so far answer. The client is closed exactly if the first reply does not answer. If the
run ends with code 0, all four are sent and answered, and the summary of the machines that the
last reply lists is printed at the end: a block for each machine in order, in it an entry for
each block device in order, and in that a line for each partition in order. -/
theorem reads_in_order (env : Environment) (replies : List Reply)
    (base : ∀ url ∈ env.url, ∃ found, ({ baseUrl := url } : Client).urlFor "version/" = .ok found) :
    (∀ e, Settings.ofEnvironment env = .error e →
      requests ((run env).run replies).events = [] ∧
        created ((run env).run replies).events = [] ∧
        closed ((run env).run replies).events = []) ∧
    (∀ settings, Settings.ofEnvironment env = .ok settings → ∃ url : Subject → String,
      (∀ subject, (client settings).urlFor (Subject.path subject) = .ok (url subject)) ∧
      requests ((run env).run replies).events <+:
        subjects.map (fun subject => request settings (url subject)) ∧
      (∀ i (_ : i < subjects.length), i < (requests ((run env).run replies).events).length ↔
        ∀ j (_ : j < i), (subjects[j]).Answered (replyAt replies j)) ∧
      created ((run env).run replies).events = [client settings] ∧
      (Subject.version.Answered (replyAt replies 0) →
        closed ((run env).run replies).events = []) ∧
      (¬ Subject.version.Answered (replyAt replies 0) →
        closed ((run env).run replies).events = [client settings])) ∧
    (((run env).run replies).result = .ok 0 →
      (requests ((run env).run replies).events).length = 4 ∧
      (∀ i (_ : i < subjects.length), (subjects[i]).Answered (replyAt replies i)) ∧
      ∃ machines, (replyAt replies 3).Contains Machine.reader { release := [2, 0] } machines ∧
        EndsInSummary machines ((run env).run replies).events) := by
  refine ⟨fun e unsound => trace_run_of_unsound unsound replies, fun settings sound => ?_,
    fun success => ?_⟩
  · obtain ⟨url, resolves⟩ := exists_url_of_base sound base
    have tried := Settings.candidates_apiVersions sound
    obtain ⟨hrequests, hcreated, hclosed⟩ := trace_run_of_sound sound replies
    obtain ⟨sent, next⟩ := course_fetch resolves tried replies
    rw [hrequests, hcreated, hclosed]
    exact ⟨url, resolves, sent, next, clients_fetch resolves tried replies⟩
  · obtain ⟨reported, hevents⟩ := run_of_result_eq success
    obtain ⟨settings, machines, blocks, sound, fetched, hblocks, hreport⟩ :=
      report_of_result_eq reported
    obtain ⟨url, resolves⟩ := exists_url_of_base sound base
    have tried := Settings.candidates_apiVersions sound
    obtain ⟨four, answers, lists⟩ := all_answered_of_fetch resolves tried fetched
    rw [(trace_run_of_sound sound replies).1]
    refine ⟨four, answers, machines, lists,
      title ++ (((load env).run replies).events ++ ((fetch settings).run replies).events),
      blocks, hblocks, by rw [hevents, hreport]; simp only [List.append_assoc], ?_⟩
    simp only [List.mem_append, not_or]
    exact ⟨fun h => (isPlain_title _ h).untitled rfl,
      fun h => (plain_load env replies _ h).untitled rfl, untitled_fetch resolves tried replies⟩

/-- All replies answer, and the last one lists one machine. -/
theorem reads_in_order_one_machine :
    let env : Environment := { url := some "http://maas:5240/MAAS" }
    let replies := [.ofText 200 "\x7b\"capabilities\": []\x7d", .ofText 200 "[]", .ofText 200 "[]",
      oneMachine ["2048"]]
    (∀ url ∈ env.url, ∃ found,
      ({ baseUrl := url } : Client).urlFor "version/" = .ok found) ∧
    ((run env).run replies).result = .ok 0 ∧
    (requests ((run env).run replies).events).length = 4 ∧
    ∃ machines, (replyAt replies 3).Contains Machine.reader { release := [2, 0] } machines ∧
      EndsInSummary machines ((run env).run replies).events := by
  intro env replies
  have base : ∀ url ∈ env.url, ∃ found,
      ({ baseUrl := url } : Client).urlFor "version/" = .ok found := by
    rintro _ ⟨⟩
    exact ⟨"http://maas:5240/MAAS/api/2.0/version/", by cbv⟩
  have success : ((run env).run replies).result = .ok 0 := by
    have some : ((run env).run replies).result.toOption = some 0 := by decide +kernel
    generalize ((run env).run replies).result = result at some
    cases result with
    | error e => cases some
    | ok code => exact congrArg Except.ok (Option.some.inj some)
  obtain ⟨four, -, machines, lists, ends⟩ := (reads_in_order env replies base).2.2 success
  exact ⟨base, success, four, machines, lists, ends⟩

end Report
end BareMetal
