/-
# The outcome of an operation

What an operation ends with is decided by the one reply that it gets.

| reply | outcome |
| --- | --- |
| none | the failure of the transport, as it is |
| status 400 to 599 | the refusal, reported as the kind of the status (`Operation.refusal`) |
| status 200 to 299 | what the operation reads from the value of the body (`Operation.reading`) |

Both tables are written out for all operations, apart from their plans, and
`Operation.plan_agrees` shows that every plan follows them.

The value of a body has U+FFFD where its JSON escapes half of a surrogate pair (`Json.ofCode`).
Of a body with such an escape the tables say what becomes of that value, and no more: two
names of a map that differ in the half only are one name in it.
-/

import BareMetal.Controller.Basic
import BareMetal.Proofs.Controller.Dispatch
import BareMetal.Proofs.Controller.Refusal
import BareMetal.Proofs.Except
import BareMetal.Proofs.Http.Answer
import Mathlib

namespace BareMetal

namespace Operation

variable {α : Type}

/-- The kind of failure that the status of a refusal of an operation stands for. -/
def refusal (op : Operation α) (status : Int) : FaultKind :=
  match op with
  | formatPartition .. | formatBlockDevice .. | createLogicalVolume .. =>
    if status = 404 then .badRequest else usualRefusal status
  | startMachine .. =>
    if status = 404 ∨ status = 409 then .badRequest else usualRefusal status
  | allocateMachine _ => if status = 409 then .noMatch else usualRefusal status
  | releaseMachines .. => if status = 409 then .cannotComplete else usualRefusal status
  | _ => usualRefusal status

/-- What an operation reads from the value of a reply, at a version. -/
def reading {α : Type} : Operation α → Version → Datum → Except Failure α
  | zones, v, d => Zone.reader.readList v d
  | pools, v, d => Pool.reader.readList v d
  | domains, v, d => Domain.reader.readList v d
  | tags, v, d => Tag.reader.readList v d
  | fabrics, v, d => Fabric.reader.readList v d
  | spaces, v, d => Space.reader.readList v d
  | subnets, v, d => Subnet.reader.readList v d
  | staticRoutes, v, d => StaticRoute.reader.readList v d
  | bootResources, v, d => BootResource.reader.readList v d
  | files _, v, d => StoredFile.reader.readList v d
  | getFile _, v, d => StoredFile.reader.read v d
  | fileContent _, v, d => (StoredFile.reader.read v d).bind StoredFile.bytes
  | machines _, v, d => Machine.reader.readList v d
  | devices _, v, d => Device.reader.readList v d
  | allocateMachine _, v, d => Machine.reader.read v d
  | releaseMachines .., _, _ => .ok ()
  | startMachine .., v, d => Machine.reader.read v d
  | createDevice _, v, d => Device.reader.read v d
  | deleteDevice _, _, _ => .ok ()
  | tagMachines _, v, d => Machine.reader.readList v d
  | addTagToMachine .., _, _ => .ok ()
  | removeTagFromMachine .., _, _ => .ok ()
  | blockDevices _, v, d => BlockDevice.reader.readList v d
  | volumeGroups _, v, d => VolumeGroup.reader.readList v d
  | formatPartition .., v, d => Partition.reader.read v d
  | mountPartition .., v, d => Partition.reader.read v d
  | formatBlockDevice .., v, d => BlockDevice.reader.read v d
  | mountBlockDevice .., v, d => BlockDevice.reader.read v d
  | createPartition .., v, d => Partition.reader.read v d
  | createLogicalVolume .., v, d => BlockDevice.reader.read v d

/-- A plan refuses and reads as its operation is meant to. -/
structure Agrees (op : Operation α) (p : Plan α) : Prop where
  isAnswer : ∀ s ∈ p.statuses, s.2.isAnswer
  refusal : ∀ status, (p.statuses.kind? status).getD .unexpected = op.refusal status
  reading : p.decode = op.reading
  /-- A deletion reads nothing from the reply. -/
  delete : p.verb = .delete → ∀ v d, p.decode v d = p.decode v .null

/-- An operation that treats no status in a way of its own agrees with a plan without a
table of statuses. -/
theorem Agrees.of_usual {op : Operation α} {p : Plan α} (statuses : p.statuses = [])
    (refusal : op.refusal = usualRefusal) (reading : p.decode = op.reading)
    (delete : p.verb = .delete → ∀ v d, p.decode v d = p.decode v .null) : op.Agrees p where
  isAnswer := by simp [statuses]
  refusal status := by rw [statuses, refusal, StatusTable.kind?_nil]
  reading := reading
  delete := delete

/-- An operation that treats one status in a way of its own agrees with a plan that has this
status in its table. -/
theorem Agrees.of_single {op : Operation α} {p : Plan α} {own : Int} {kind : FaultKind}
    (statuses : p.statuses = [(own, kind)]) (answer : kind.isAnswer)
    (refusal : op.refusal = fun status => if status = own then kind else usualRefusal status)
    (reading : p.decode = op.reading)
    (delete : p.verb = .delete → ∀ v d, p.decode v d = p.decode v .null) : op.Agrees p where
  isAnswer := by simpa [statuses] using answer
  refusal status := by rw [statuses, refusal, StatusTable.kind?_cons, StatusTable.kind?_nil]
  reading := reading
  delete := delete

/-- Starting a machine treats two statuses alike, so neither of the two lemmas for the
others applies. -/
theorem agrees_startMachine (machine : Machine) (deployment : Deployment) :
    (startMachine machine deployment).Agrees
      (.change Machine.reader machine.resourceUri "deploy" deployment.params
        [(404, .badRequest), (409, .badRequest)]) where
  isAnswer := by simp [Plan.change, FaultKind.isAnswer]
  refusal status := by
    simp only [Plan.change, StatusTable.kind?_cons, StatusTable.kind?_nil, Operation.refusal]
    by_cases h : status = 404 <;> simp [h]
  reading := rfl
  delete := nofun

/-- Every plan follows the two tables. -/
theorem plan_agrees {op : Operation α} {p : Plan α} (h : op.plan = .ok p) : op.Agrees p := by
  cases op
  case startMachine machine deployment =>
    cases h
    exact agrees_startMachine machine deployment
  all_goals
    simp only [plan] at h
    -- what is left after the checks of the arguments is the plan
    repeat obtain ⟨_, _, h⟩ := bind_eq_ok_iff.1 h
    cases h
  case deleteDevice => exact .of_usual rfl rfl rfl fun _ _ _ => rfl
  all_goals
    first
    | exact .of_usual rfl rfl rfl nofun
    | exact .of_single rfl rfl rfl rfl nofun

end Operation

namespace Controller

variable {α : Type} (c : Controller)

/-- The result of a plan, given what its request ends with: a failure is translated,
a value is decoded, and the records do not count. -/
theorem result_carryOut (p : Plan α) (replies : List Reply) :
    ((c.carryOut p).run replies).result =
      (((c.send p).run replies).result.mapError (·.translate p.statuses)).bind
        (p.decode c.version) := by
  rw [carryOut, Exchange.run_bind, Exchange.run_mapFailure]
  cases hs : ((c.send p).run replies).result with
  | error e => rfl
  | ok d =>
    simp only [Except.mapError, Except.bind, Exchange.run_bind, Exchange.run_ofExcept]
    cases p.decode c.version d with
    | error e => rfl
    | ok x =>
      dsimp only
      cases p.record x <;> rfl

/-- The result of a request is what the client makes of the reply, and nothing for a
deletion. -/
theorem result_send {p : Plan α} {url : String} (resolves : c.client.urlFor p.path = .ok url)
    (reply : Reply) (later : List Reply) :
    ((c.send p).run (reply :: later)).result =
      (Client.answer p.path reply).map fun d => if p.verb = .delete then .null else d := by
  unfold send
  split
  · next hv =>
    rw [Client.get, Client.run_request c.client resolves, hv]
    cases Client.answer p.path reply <;> rfl
  · next hv =>
    rw [Client.post, Client.run_request c.client resolves, hv]
    cases Client.answer p.path reply <;> rfl
  · next hv =>
    rw [Client.delete, Exchange.run_bind, Exchange.run_bind,
      Client.run_request c.client resolves, hv]
    cases Client.answer p.path reply <;> rfl

/-- The result of an accepted operation is the answer to its request, with the failure
translated and the value read. -/
theorem result_perform {op : Operation α} {p : Plan α} (accepted : op.plan = .ok p)
    {url : String} (resolves : c.client.urlFor p.path = .ok url) (reply : Reply)
    (later : List Reply) :
    ((c.perform op).run (reply :: later)).result =
      ((Client.answer p.path reply).mapError (·.translate p.statuses)).bind
        (op.reading c.version) := by
  have agrees := Operation.plan_agrees accepted
  rw [perform, accepted, Exchange.run_ofExcept_ok_bind, result_carryOut, result_send c resolves]
  cases Client.answer p.path reply with
  | error e => rfl
  | ok d =>
    simp only [Except.map, Except.mapError, Except.bind, ← agrees.reading]
    split
    · next hv => exact (agrees.delete hv c.version d).symm
    · rfl

/-- **The reply decides the outcome.** For every operation whose arguments pass its checks, whose
numbers have few enough digits to be written, and whose path has a URL: the failure of the
transport is passed on as it is, a refusal is reported as the kind of its status, and after a
success the outcome is what the operation reads from the body. -/
theorem perform_outcome (op : Operation α) (usable : ¬ op.Unusable) (writable : op.IsWritable)
    {url : String} (resolves : c.client.urlFor op.call.path = .ok url) (reply : Reply)
    (later : List Reply) :
    match reply with
    | .fault t message =>
      ((c.perform op).run (reply :: later)).result = .error (.plain (.transport t) message)
    | .response r =>
      (400 ≤ r.status ∧ r.status ≤ 599 →
        ∃ e, ((c.perform op).run (reply :: later)).result = .error e ∧
          e.Reports (op.refusal r.status) r) ∧
      (200 ≤ r.status ∧ r.status ≤ 299 →
        ((c.perform op).run (reply :: later)).result =
          (Client.readBody op.call.path r.body).bind (op.reading c.version)) := by
  obtain ⟨p, accepted, carriesOut⟩ := Operation.exists_plan usable writable
  have agrees := Operation.plan_agrees accepted
  rw [← carriesOut.path] at resolves ⊢
  rw [result_perform c accepted resolves]
  cases reply with
  | fault t message => rfl
  | response r =>
    refine ⟨fun ⟨h400, h599⟩ => ?_, fun ⟨h200, h299⟩ => ?_⟩
    · have refuses : r.isRefusal := by simp [Response.isRefusal]; omega
      rw [Client.answer_of_isRefusal _ refuses]
      refine ⟨_, rfl, ?_⟩
      rw [← agrees.refusal]
      exact Failure.reports_translate agrees.isAnswer r
    · have succeeds : ¬ r.isRefusal := by simp [Response.isRefusal]; omega
      rw [Client.answer_of_not_isRefusal _ succeeds]
      cases hb : Client.readBody p.path r.body with
      | ok d => rfl
      | error e =>
        have hk := Client.kind_of_readBody_eq_error hb
        rw [Except.mapError, Failure.translate_of_ne_server fun _ _ _ h => by simp [hk] at h]

/-- A release that the server cannot carry out, with the status that means a bad
request elsewhere. -/
theorem perform_release_conflict :
    let op := Operation.releaseMachines ["4y3ha3"] ""
    let r : Response :=
      { status := 409, reason := some "Conflict", body := [98, 117, 115, 121] }
    ¬ op.Unusable ∧ op.IsWritable ∧
      ({ baseUrl := "http://maas:5240/MAAS" } : Client).urlFor op.call.path =
        .ok "http://maas:5240/MAAS/api/2.0/machines/" ∧
      ∃ e, (((⟨{ baseUrl := "http://maas:5240/MAAS" }, { release := [2, 0] }, .empty⟩ :
          Controller).perform op).run [.response r]).result = .error e ∧
        e.Reports .cannotComplete r := by
  intro op r
  have usable : ¬ op.Unusable := by simp [op, Operation.Unusable]
  have writable : op.IsWritable := .of_numbers_eq_nil rfl
  have resolves : ({ baseUrl := "http://maas:5240/MAAS" } : Client).urlFor op.call.path =
      .ok "http://maas:5240/MAAS/api/2.0/machines/" := by cbv
  have outcome := perform_outcome
    ⟨{ baseUrl := "http://maas:5240/MAAS" }, { release := [2, 0] }, .empty⟩ op usable writable
    resolves (.response r) []
  exact ⟨usable, writable, resolves, outcome.1 (by decide)⟩

end Controller
end BareMetal
