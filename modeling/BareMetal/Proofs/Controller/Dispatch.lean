/-
# What an operation sends

The arguments of an operation are looked at before anything is sent, and nothing is sent
twice (`Controller.perform_sends`).

| arguments | what is sent |
| --- | --- |
| of no use (`Operation.Unusable`) | nothing, and the operation fails as an invalid argument |
| a number with more than 4300 digits | the same |
| any other, and the path has a URL | the request of the call (`Operation.call`), once |

The calls are written out here for all operations, apart from their plans: an argument that
is empty or absent has no value, and what has no value is left out.
-/

import BareMetal.Proofs.Collections
import BareMetal.Proofs.Controller.Request
import BareMetal.Proofs.Except
import BareMetal.Proofs.Number.Spelling
import Mathlib

namespace BareMetal

/-- Arguments in order, each with its value if it has one. -/
abbrev Arguments := List (String × Option Datum)

namespace Arguments

/-- A text, unless it is empty. -/
def text? (s : String) : Option Datum := if s = "" then none else some (.text s)

/-- Several texts, unless there are none. -/
def texts? (ss : List String) : Option Datum :=
  if ss = [] then none else some (.list (ss.map .text))

/-- Several texts with commas between them, unless there are none. -/
def joined? (ss : List String) : Option Datum :=
  if ss = [] then none else some (.text (",".intercalate ss))

/-- A whole number in decimal digits. -/
def number? (n : Option Int) : Option Datum := n.map fun n => .text (toString n)

/-- The word for a flag. -/
def word? (b : Option Bool) : Option Datum := b.map fun b => .text (if b then "true" else "false")

/-- Bytes in base64. -/
def base64? (bytes : Option (List UInt8)) : Option Datum :=
  bytes.map fun bytes => .text (String.ofList (Text.Base64.encode bytes))

/-- The arguments that have a value. -/
def given (arguments : Arguments) : Params := arguments.filterMap fun a => a.2.map (a.1, ·)

end Arguments

/-- What is asked of a controller. -/
structure Operation.Call where
  verb : Verb
  path : String
  op : String := ""
  arguments : Arguments := []

namespace Operation.Call

/-- The request of a call: the arguments are the form of a `POST` and belong to the query of a
`GET`, and the name of the operation belongs to the query. -/
def request (x : Operation.Call) (c : Client) (url : String) : Request where
  verb := x.verb
  url := url
  query := (if x.verb = .get then x.arguments.given else []) ++
    if x.op = "" then [] else [("op", .text x.op)]
  form := if x.verb = .post then some x.arguments.given else none
  timeout := c.timeout
  verify := c.verify
  accept := "application/json"

end Operation.Call

namespace Operation

variable {α : Type}

open Arguments in
/-- What an operation asks of a controller. -/
def call : Operation α → Call
  | zones => { verb := .get, path := "zones/" }
  | pools => { verb := .get, path := "resourcepools/" }
  | domains => { verb := .get, path := "domains/" }
  | tags => { verb := .get, path := "tags/" }
  | fabrics => { verb := .get, path := "fabrics/" }
  | spaces => { verb := .get, path := "spaces/" }
  | subnets => { verb := .get, path := "subnets/" }
  | staticRoutes => { verb := .get, path := "static-routes/" }
  | bootResources => { verb := .get, path := "boot-resources/" }
  | files namePrefix =>
    { verb := .get, path := "files/", arguments := [("prefix", text? namePrefix)] }
  | getFile filename => { verb := .get, path := "files/" ++ filename ++ "/" }
  | fileContent filename => { verb := .get, path := "files/" ++ filename ++ "/" }
  | machines f =>
    { verb := .get, path := "machines/",
      arguments := [("id", texts? f.systemIds), ("hostname", texts? f.hostnames),
        ("zone", text? f.zone), ("pool", text? f.pool)] }
  | devices f =>
    { verb := .get, path := "devices/",
      arguments := [("id", texts? f.systemIds), ("hostname", texts? f.hostnames),
        ("mac_address", texts? f.macAddresses)] }
  | allocateMachine a =>
    { verb := .post, path := "machines/", op := "allocate",
      arguments := [("name", text? a.hostname), ("system_id", text? a.systemId),
        ("arch", text? a.architecture), ("cpu_count", number? a.minCpuCount),
        ("mem", number? a.minMemory), ("tags", joined? a.tags), ("not_tags", joined? a.notTags),
        ("zone", text? a.zone), ("not_in_zone", joined? a.notInZone),
        ("agent_name", text? a.agentName), ("comment", text? a.comment),
        ("dry_run", if a.dryRun then some (.text "true") else none)] }
  | releaseMachines systemIds comment =>
    { verb := .post, path := "machines/", op := "release",
      arguments := [("machines", texts? systemIds), ("comment", text? comment)] }
  | startMachine machine d =>
    { verb := .post, path := machine.resourceUri, op := "deploy",
      arguments := [("user_data", base64? d.userData), ("distro_series", text? d.distroSeries),
        ("hwe_kernel", text? d.kernel), ("comment", text? d.comment)] }
  | createDevice d =>
    { verb := .post, path := "devices/",
      arguments := [("mac_addresses", texts? d.macAddresses), ("hostname", text? d.hostname),
        ("domain", text? d.domain), ("parent", text? d.parent)] }
  | deleteDevice device => { verb := .delete, path := device.resourceUri }
  | tagMachines tagName => { verb := .get, path := "tags/" ++ tagName ++ "/", op := "machines" }
  | addTagToMachine tag systemId =>
    { verb := .post, path := tag.resourceUri, op := "update_nodes",
      arguments := [("add", texts? [systemId])] }
  | removeTagFromMachine tag systemId =>
    { verb := .post, path := tag.resourceUri, op := "update_nodes",
      arguments := [("remove", texts? [systemId])] }
  | blockDevices systemId => { verb := .get, path := "nodes/" ++ systemId ++ "/blockdevices/" }
  | volumeGroups systemId => { verb := .get, path := "nodes/" ++ systemId ++ "/volume-groups/" }
  | formatPartition partition fsType uuid label =>
    { verb := .post, path := partition.resourceUri, op := "format",
      arguments := [("fs_type", text? fsType), ("uuid", text? uuid), ("label", text? label)] }
  | mountPartition partition mountPoint mountOptions =>
    { verb := .post, path := partition.resourceUri, op := "mount",
      arguments := [("mount_point", text? mountPoint), ("mount_options", text? mountOptions)] }
  | formatBlockDevice device fsType uuid =>
    { verb := .post, path := device.resourceUri, op := "format",
      arguments := [("fs_type", text? fsType), ("uuid", text? uuid)] }
  | mountBlockDevice device mountPoint mountOptions =>
    { verb := .post, path := device.resourceUri, op := "mount",
      arguments := [("mount_point", text? mountPoint), ("mount_options", text? mountOptions)] }
  | createPartition device p =>
    { verb := .post, path := device.partitionsPath,
      arguments := [("size", number? p.size), ("uuid", text? p.uuid),
        ("bootable", word? p.bootable)] }
  | createLogicalVolume group name size uuid =>
    { verb := .post, path := group.resourceUri, op := "create_logical_volume",
      arguments := [("name", text? name), ("size", number? size), ("uuid", text? uuid)] }

/-- The arguments are of no use: what has to be named is not, or a number makes no sense. -/
def Unusable : Operation α → Prop
  | getFile filename | fileContent filename => filename = ""
  | tagMachines tagName => tagName = ""
  | formatPartition _ fsType _ _ | formatBlockDevice _ fsType _ => fsType = ""
  | mountPartition _ mountPoint _ | mountBlockDevice _ mountPoint _ => mountPoint = ""
  | allocateMachine a => (∃ n ∈ a.minCpuCount, n < 0) ∨ ∃ n ∈ a.minMemory, n < 0
  | releaseMachines systemIds _ => systemIds = []
  | createDevice d => d.macAddresses = []
  | createPartition _ p => ∃ n ∈ p.size, n ≤ 0
  | createLogicalVolume _ name size _ => name = "" ∨ size ≤ 0
  | _ => False

/-- The numbers among the arguments. -/
def numbers : Operation α → List Int
  | allocateMachine a => a.minCpuCount.toList ++ a.minMemory.toList
  | createPartition _ p => p.size.toList
  | createLogicalVolume _ _ size _ => [size]
  | _ => []

/-- Every number among the arguments has few enough digits to be written. -/
def IsWritable (op : Operation α) : Prop := ∀ n ∈ op.numbers, Numeral.IsWritable n

/-- Without a number there is none that is too long. -/
theorem IsWritable.of_numbers_eq_nil {op : Operation α} (none : op.numbers = []) :
    op.IsWritable := by
  simp [IsWritable, none]

/-- No argument has the name of the parameter for the operation. -/
theorem op_not_mem_arguments (op : Operation α) : "op" ∉ op.call.arguments.given.names := by
  have named : "op" ∉ op.call.arguments.map Prod.fst := by
    cases op <;> simp [call]
  intro h
  obtain ⟨⟨name, d⟩, hd, rfl⟩ := List.mem_map.1 h
  obtain ⟨⟨name', o⟩, ho, heq⟩ := List.mem_filterMap.1 hd
  obtain ⟨d', -, heq⟩ := Option.map_eq_some_iff.1 heq
  cases heq
  exact named (List.mem_map.2 ⟨_, ho, rfl⟩)

end Operation

/-- Where no parameter has its name, the operation stands behind all of them, unless it has no
name of its own. -/
theorem Client.withOperation_eq {op : String} {params : Params} (h : "op" ∉ params.names) :
    withOperation op params = params ++ if op = "" then [] else [("op", .text op)] := by
  by_cases hop : op = ""
  · simp [withOperation, hop]
  · simp [withOperation, hop, Entries.put_of_not_mem h]

namespace Arguments

variable (name : String) (rest : Arguments)

/-- A text that is not empty is given under its name. -/
@[simp] theorem given_text (s : String) :
    given ((name, text? s) :: rest) = Plan.given name s ++ given rest := by
  by_cases h : s = "" <;> simp [given, text?, Plan.given, h]

/-- Every text of a list is given under the same name, in order. -/
@[simp] theorem given_texts (ss : List String) :
    given ((name, texts? ss) :: rest) = Plan.givenList name ss ++ given rest := by
  by_cases h : ss = [] <;> simp [given, texts?, Plan.givenList, h]

/-- The texts of a list are given as one text, joined by commas, unless there are none. -/
@[simp] theorem given_joined (ss : List String) :
    given ((name, joined? ss) :: rest) = Plan.givenJoined name ss ++ given rest := by
  by_cases h : ss = [] <;> simp [given, joined?, Plan.givenJoined, h]

/-- A number that is set is given in decimal digits. -/
@[simp] theorem given_number (n : Option Int) :
    given ((name, number? n) :: rest) =
      n.elim [] (fun n => [(name, .text (toString n))]) ++ given rest := by
  cases n <;> rfl

/-- Of no arguments nothing is given. -/
@[simp] theorem given_nil : given [] = [] := rfl

/-- An argument without a value is left out. -/
@[simp] theorem given_absent : given ((name, none) :: rest) = given rest := rfl

/-- An argument with a value is given under its name. -/
@[simp] theorem given_present (d : Datum) :
    given ((name, some d) :: rest) = (name, d) :: given rest := rfl

end Arguments

/-- A plan carries out a call. -/
structure Plan.CarriesOut {α : Type} (p : Plan α) (x : Operation.Call) : Prop where
  verb : p.verb = x.verb
  path : p.path = x.path
  op : p.op = x.op
  arguments : p.params.getD [] = x.arguments.given
  form : p.verb = .post → p.params.isSome
  delete : p.verb = .delete → p.op = ""

namespace Plan.CarriesOut

variable {α : Type} {reader : Reader α} {path op : String} {arguments : Arguments}

/-- A plan that lists carries out a call for its path with the arguments that it asks for. -/
theorem list {params : Option Params} (h : params.getD [] = arguments.given) :
    (Plan.list reader path params op).CarriesOut { verb := .get, path, op, arguments } :=
  ⟨rfl, rfl, rfl, h, nofun, nofun⟩

/-- A plan that changes an entity carries out a post of the arguments that it writes. -/
theorem change {params : Params} {statuses : StatusTable} (h : params = arguments.given) :
    (Plan.change reader path op params statuses).CarriesOut
      { verb := .post, path, op, arguments } :=
  ⟨rfl, rfl, rfl, h, fun _ => rfl, nofun⟩

/-- A plan of a command carries out a post of the arguments that it writes. -/
theorem command {params : Params} {statuses : StatusTable} (h : params = arguments.given) :
    (Plan.command path op params statuses).CarriesOut { verb := .post, path, op, arguments } :=
  ⟨rfl, rfl, rfl, h, fun _ => rfl, nofun⟩

/-- The record of a success does not count. -/
theorem recorded {p : Plan α} {x : Operation.Call} (h : p.CarriesOut x)
    (record : α → Option String) :
    ({ p with record } : Plan α).CarriesOut x :=
  ⟨h.verb, h.path, h.op, h.arguments, h.form, h.delete⟩

/-- The request is that of the call, since no argument stands in the place of the operation. -/
theorem request_eq {p : Plan α} {x : Operation.Call} (h : p.CarriesOut x)
    (free : "op" ∉ x.arguments.given.names) (c : Client) (url : String) :
    p.request c url = x.request c url := by
  obtain ⟨verb, path, op, arguments, form, delete⟩ := h
  rw [Plan.request, Operation.Call.request, ← verb, ← op]
  cases hv : p.verb with
  | get => simp [arguments, Client.withOperation_eq free]
  | post =>
    obtain ⟨params, hp⟩ := Option.isSome_iff_exists.1 (form hv)
    obtain rfl : params = x.arguments.given := by simpa [hp] using arguments
    have none : "op" ∉ Entries.names ([] : Params) := List.not_mem_nil
    simp [hp, Client.withOperation_eq none]
  | delete => simp [delete hv]

end Plan.CarriesOut

/-- Parameters that are none are the same as no parameters. -/
theorem Plan.getD_query (params : Params) : (Plan.query params).getD [] = params := by
  cases params <;> rfl

section Checks

variable {β : Type} {condition : Bool} {context message : String} {n : Int}
  {f : Unit → Except Failure β}

/-- A check that is passed does not count. -/
theorem require_bind_eq {r : Except Failure β} (h : condition) (rest : f () = r) :
    (require condition message >>= f) = r := by
  rw [require, if_pos h, ← rest]
  rfl

/-- A check that is not passed ends the chain. -/
theorem require_bind_eq_error (h : ¬ condition) :
    (require condition message >>= f) = .error (.invalid message) :=
  bind_eq_error_iff.2 (.inl (if_neg h))

/-- A check of a number that is passed does not count. -/
theorem requireNumber_bind_eq {r : Except Failure β} (h : condition) (rest : f () = r) :
    (requireNumber condition context n >>= f) = r := by
  rw [requireNumber, if_pos h, ← rest]
  rfl

/-- A check of a number that is not passed ends the chain, be it that the number is shown or that
it is too long for that. -/
theorem exists_requireNumber_bind_eq_error (h : ¬ condition) :
    ∃ message, (requireNumber condition context n >>= f) = .error (.invalid message) := by
  rw [requireNumber, if_neg h]
  by_cases writable : Numeral.IsWritable n
  · rw [Numeral.write_of_isWritable writable]
    exact ⟨_, rfl⟩
  · rw [Numeral.write_of_not_isWritable writable]
    exact ⟨_, rfl⟩

/-- A number that can be written is a parameter. -/
theorem Plan.number_eq_ok (name : String) (writable : Numeral.IsWritable n) :
    Plan.number name n = .ok [(name, .text (toString n))] := by
  rw [Plan.number, Numeral.write_of_isWritable writable]
  rfl

/-- A number that is too long is none. -/
theorem Plan.number_eq_error (name : String) (long : ¬ Numeral.IsWritable n) :
    Plan.number name n = .error Numeral.tooLong := by
  rw [Plan.number, Numeral.write_of_not_isWritable long]
  rfl

end Checks

/-- A minimum that makes sense and can be written is sent as it is. -/
theorem minimumParam_eq_ok {label name : String} {o : Option Int} (natural : ¬ ∃ n ∈ o, n < 0)
    (writable : ∀ n ∈ o, Numeral.IsWritable n) :
    minimumParam label name o = .ok (o.elim [] fun n => [(name, .text (toString n))]) := by
  cases o with
  | none => rfl
  | some n =>
    have natural : 0 ≤ n := by simpa using natural
    exact requireNumber_bind_eq (decide_eq_true natural)
      (Plan.number_eq_ok name (writable n rfl))

/-- A minimum that makes no sense or cannot be written is refused. -/
theorem exists_minimumParam_eq_error (label name : String) {o : Option Int}
    (h : (∃ n ∈ o, n < 0) ∨ ∃ n ∈ o, ¬ Numeral.IsWritable n) :
    ∃ message, minimumParam label name o = .error (.invalid message) := by
  cases o with
  | none => simp at h
  | some n =>
    by_cases natural : 0 ≤ n
    · have long : ¬ Numeral.IsWritable n := by simpa [natural, Int.not_lt.2 natural] using h
      exact ⟨_, requireNumber_bind_eq (decide_eq_true natural) (Plan.number_eq_error name long)⟩
    · exact exists_requireNumber_bind_eq_error (mt of_decide_eq_true natural)

/-- The form of an allocation holds what the call asks for. -/
theorem Allocation.params_eq_ok {a : Allocation} (usable : ¬ (Operation.allocateMachine a).Unusable)
    (writable : (Operation.allocateMachine a).IsWritable) :
    a.params = .ok (Operation.allocateMachine a).call.arguments.given := by
  obtain ⟨cpuCount, memory⟩ := not_or.1 usable
  obtain ⟨cpuCount', memory'⟩ := List.forall_mem_append.1 writable
  refine bind_eq_ok_iff.2 ⟨_, minimumParam_eq_ok cpuCount (by simpa using cpuCount'),
    bind_eq_ok_iff.2 ⟨_, minimumParam_eq_ok memory (by simpa using memory'),
      congrArg Except.ok ?_⟩⟩
  cases h : a.dryRun <;> simp [Operation.call, h]

/-- An allocation with a minimum that makes no sense or cannot be written is refused. -/
theorem Allocation.exists_params_eq_error {a : Allocation}
    (refused : (Operation.allocateMachine a).Unusable ∨
      ¬ (Operation.allocateMachine a).IsWritable) :
    ∃ message, a.params = .error (.invalid message) := by
  by_cases cpuCount : (∃ n ∈ a.minCpuCount, n < 0) ∨ ∃ n ∈ a.minCpuCount, ¬ Numeral.IsWritable n
  · obtain ⟨message, h⟩ := exists_minimumParam_eq_error "min_cpu_count" "cpu_count" cpuCount
    exact ⟨message, bind_eq_error_iff.2 (.inl h)⟩
  · obtain ⟨natural, written⟩ := not_or.1 cpuCount
    push Not at written
    have memory : (∃ n ∈ a.minMemory, n < 0) ∨ ∃ n ∈ a.minMemory, ¬ Numeral.IsWritable n := by
      refine refused.imp (·.resolve_left natural) fun long => ?_
      simp only [Operation.IsWritable, Operation.numbers, List.forall_mem_append, Option.mem_toList,
        not_and, not_forall] at long
      obtain ⟨n, mem, long⟩ := long written
      exact ⟨n, mem, long⟩
    obtain ⟨message, h⟩ := exists_minimumParam_eq_error "min_memory" "mem" memory
    exact ⟨message, bind_eq_error_iff.2 (.inr ⟨_, minimumParam_eq_ok natural written,
      bind_eq_error_iff.2 (.inl h)⟩)⟩

/-- The parameters of a deployment are the arguments that it has. -/
theorem Deployment.params_eq (machine : Machine) (d : Deployment) :
    d.params = (Operation.startMachine machine d).call.arguments.given := by
  cases h : d.userData <;> simp [Deployment.params, Operation.call, Arguments.base64?, h]

/-- The form of a new partition holds what the call asks for. -/
theorem NewPartition.params_eq_ok {device : BlockDevice} {p : NewPartition}
    (usable : ¬ (Operation.createPartition device p).Unusable)
    (writable : (Operation.createPartition device p).IsWritable) :
    p.params = .ok (Operation.createPartition device p).call.arguments.given := by
  obtain ⟨size, uuid, bootable⟩ := p
  cases size with
  | none =>
    refine congrArg Except.ok ?_
    cases bootable <;> simp [Operation.call, Arguments.word?]
  | some n =>
    have positive : 0 < n := by simpa [Operation.Unusable] using usable
    have written := Plan.number_eq_ok "size" (writable n (by simp [Operation.numbers]))
    refine requireNumber_bind_eq (decide_eq_true positive)
      (bind_eq_ok_iff.2 ⟨_, written, congrArg Except.ok ?_⟩)
    cases bootable <;> simp [Operation.call, Arguments.word?]

/-- A new partition with a size that makes no sense or cannot be written is refused. -/
theorem NewPartition.exists_params_eq_error {device : BlockDevice} {p : NewPartition}
    (refused : (Operation.createPartition device p).Unusable ∨
      ¬ (Operation.createPartition device p).IsWritable) :
    ∃ message, p.params = .error (.invalid message) := by
  obtain ⟨size, uuid, bootable⟩ := p
  cases size with
  | none => simp [Operation.Unusable, Operation.IsWritable, Operation.numbers] at refused
  | some n =>
    by_cases positive : 0 < n
    · have long : ¬ Numeral.IsWritable n := by
        simpa [Operation.Unusable, Operation.IsWritable, Operation.numbers, Int.not_le.2 positive]
          using refused
      exact ⟨_, requireNumber_bind_eq (decide_eq_true positive)
        (bind_eq_error_iff.2 (.inl (Plan.number_eq_error "size" long)))⟩
    · exact exists_requireNumber_bind_eq_error (mt of_decide_eq_true positive)

/-- With a type of file system the parameters for formatting can be written. -/
theorem formatParams_eq_ok {fsType : String} (named : fsType ≠ "") (uuid label : String) :
    formatParams fsType uuid label =
      .ok ([("fs_type", .text fsType)] ++ Plan.given "uuid" uuid ++ Plan.given "label" label) :=
  require_bind_eq (by simpa using named) rfl

/-- With a mount point the parameters for mounting can be written. -/
theorem mountParams_eq_ok {mountPoint : String} (named : mountPoint ≠ "") (mountOptions : String) :
    mountParams mountPoint mountOptions =
      .ok ([("mount_point", .text mountPoint)] ++ Plan.given "mount_options" mountOptions) :=
  require_bind_eq (by simpa using named) rfl

namespace Operation
variable {α : Type}

open Plan in
/-- Arguments that are of use and can be written have a plan, which carries out the call. -/
theorem exists_plan {op : Operation α} (usable : ¬ op.Unusable) (writable : op.IsWritable) :
    ∃ p, op.plan = .ok p ∧ p.CarriesOut op.call := by
  cases op with
  | zones | pools | domains | tags | fabrics | spaces | subnets | staticRoutes | bootResources =>
    exact ⟨_, rfl, .list rfl⟩
  | files namePrefix =>
    exact ⟨_, rfl, .list (by simp [getD_query])⟩
  | machines f | devices f =>
    exact ⟨_, rfl, .list (by simp [getD_query])⟩
  | getFile filename | fileContent filename =>
    have named : filename ≠ "" := usable
    exact ⟨_, require_bind_eq (by simpa using named) rfl, rfl, rfl, rfl, rfl, nofun,
      nofun⟩
  | tagMachines tagName =>
    have named : tagName ≠ "" := usable
    exact ⟨_, require_bind_eq (by simpa using named) rfl, .list rfl⟩
  | blockDevices systemId | volumeGroups systemId => exact ⟨_, rfl, .list rfl⟩
  | allocateMachine a =>
    exact ⟨_, bind_eq_ok_iff.2 ⟨_, a.params_eq_ok usable writable, rfl⟩,
      (CarriesOut.change rfl).recorded _⟩
  | releaseMachines systemIds comment =>
    have some : systemIds ≠ [] := usable
    exact ⟨_, require_bind_eq (by simpa using some) rfl,
      (CarriesOut.command (by simp)).recorded _⟩
  | startMachine machine d => exact ⟨_, rfl, .change (d.params_eq machine)⟩
  | createDevice d =>
    have some : d.macAddresses ≠ [] := usable
    exact ⟨_, require_bind_eq (by simpa using some) rfl, .change (by simp)⟩
  | deleteDevice device => exact ⟨_, rfl, rfl, rfl, rfl, rfl, nofun, fun _ => rfl⟩
  | addTagToMachine tag systemId | removeTagFromMachine tag systemId =>
    exact ⟨_, rfl, .command (by simp)⟩
  | formatPartition partition fsType uuid label =>
    have named : fsType ≠ "" := usable
    exact ⟨_, bind_eq_ok_iff.2 ⟨_, formatParams_eq_ok named uuid label, rfl⟩,
      .change (by simp [Plan.given, named])⟩
  | mountPartition partition mountPoint mountOptions =>
    have named : mountPoint ≠ "" := usable
    exact ⟨_, bind_eq_ok_iff.2 ⟨_, mountParams_eq_ok named mountOptions, rfl⟩,
      .change (by simp [Plan.given, named])⟩
  | formatBlockDevice device fsType uuid =>
    have named : fsType ≠ "" := usable
    exact ⟨_, bind_eq_ok_iff.2 ⟨_, formatParams_eq_ok named uuid "", rfl⟩,
      .change (by simp [Plan.given, named])⟩
  | mountBlockDevice device mountPoint mountOptions =>
    have named : mountPoint ≠ "" := usable
    exact ⟨_, bind_eq_ok_iff.2 ⟨_, mountParams_eq_ok named mountOptions, rfl⟩,
      .change (by simp [Plan.given, named])⟩
  | createPartition device p =>
    exact ⟨_, bind_eq_ok_iff.2 ⟨_, p.params_eq_ok usable writable, rfl⟩, .change rfl⟩
  | createLogicalVolume group name size uuid =>
    obtain ⟨named, positive⟩ : name ≠ "" ∧ 0 < size := by simpa [Unusable] using usable
    have written := Plan.number_eq_ok "size" (writable size (by simp [numbers]))
    exact ⟨_, require_bind_eq (by simpa using named)
        (requireNumber_bind_eq (decide_eq_true positive) (bind_eq_ok_iff.2 ⟨_, written, rfl⟩)),
      .change (by simp [Plan.given, named])⟩

/-- Without a number among the arguments, only what is of no use is refused. -/
theorem unusable_of_refused {op : Operation α} (none : op.numbers = [])
    (refused : op.Unusable ∨ ¬ op.IsWritable) : op.Unusable :=
  refused.resolve_right (not_not_intro (.of_numbers_eq_nil none))

/-- Arguments that are of no use or cannot be written are refused. -/
theorem exists_invalid {op : Operation α} (refused : op.Unusable ∨ ¬ op.IsWritable) :
    ∃ message, op.plan = .error (.invalid message) := by
  cases op with
  | getFile filename | fileContent filename =>
    obtain rfl : filename = "" := unusable_of_refused rfl refused
    exact ⟨_, rfl⟩
  | tagMachines tagName =>
    obtain rfl : tagName = "" := unusable_of_refused rfl refused
    exact ⟨_, rfl⟩
  | allocateMachine a =>
    obtain ⟨message, h⟩ := a.exists_params_eq_error refused
    exact ⟨message, bind_eq_error_iff.2 (.inl h)⟩
  | releaseMachines systemIds comment =>
    obtain rfl : systemIds = [] := unusable_of_refused rfl refused
    exact ⟨_, rfl⟩
  | createDevice d =>
    have none : d.macAddresses = [] := unusable_of_refused rfl refused
    exact ⟨_, require_bind_eq_error (by simpa using none)⟩
  | formatPartition _ fsType uuid label =>
    obtain rfl : fsType = "" := unusable_of_refused rfl refused
    exact ⟨_, rfl⟩
  | formatBlockDevice _ fsType uuid =>
    obtain rfl : fsType = "" := unusable_of_refused rfl refused
    exact ⟨_, rfl⟩
  | mountPartition _ mountPoint mountOptions | mountBlockDevice _ mountPoint mountOptions =>
    obtain rfl : mountPoint = "" := unusable_of_refused rfl refused
    exact ⟨_, rfl⟩
  | createPartition device p =>
    obtain ⟨message, h⟩ := p.exists_params_eq_error refused
    exact ⟨message, bind_eq_error_iff.2 (.inl h)⟩
  | createLogicalVolume group name size uuid =>
    by_cases unnamed : name = ""
    · subst unnamed
      exact ⟨_, rfl⟩
    · by_cases positive : 0 < size
      · have long : ¬ Numeral.IsWritable size := by
          simpa [Unusable, IsWritable, numbers, unnamed, Int.not_le.2 positive] using refused
        exact ⟨_, require_bind_eq (by simpa using unnamed)
          (requireNumber_bind_eq (decide_eq_true positive)
            (bind_eq_error_iff.2 (.inl (Plan.number_eq_error "size" long))))⟩
      · obtain ⟨message, h⟩ :=
          exists_requireNumber_bind_eq_error (mt of_decide_eq_true positive)
        exact ⟨message, require_bind_eq (by simpa using unnamed) h⟩
  | _ => exact (unusable_of_refused rfl refused).elim

end Operation

namespace Controller

variable {α : Type} (c : Controller)

/-- An operation whose arguments are of use and can be written sends the request of its call. -/
theorem requests_perform_of_usable {op : Operation α} (usable : ¬ op.Unusable)
    (writable : op.IsWritable) {url : String}
    (resolves : c.client.urlFor op.call.path = .ok url) (replies : List Reply) :
    requests ((c.perform op).run replies).events = [op.call.request c.client url] := by
  obtain ⟨p, h, carriesOut⟩ := Operation.exists_plan usable writable
  rw [requests_perform, h]
  simp only [Client.sent, carriesOut.path, resolves,
    carriesOut.request_eq op.op_not_mem_arguments]

/-- An operation that is refused does nothing at all. -/
theorem exists_run_perform_eq_error {op : Operation α} (refused : op.Unusable ∨ ¬ op.IsWritable)
    (replies : List Reply) : ∃ message,
      (c.perform op).run replies = ⟨.error (.invalid message), [], replies⟩ := by
  obtain ⟨message, h⟩ := Operation.exists_invalid refused
  exact ⟨message, by rw [perform, h]; rfl⟩

/-- **Arguments are looked at first, and nothing is sent twice.** An operation whose arguments
are of no use fails as such and sends nothing, and leaves all replies; so does one with a number
that is too long to be written. Every other one whose path has a URL sends one request, whatever
the replies are: that of its call, in which the operation is named in the query and nowhere
else. -/
theorem perform_sends (op : Operation α) (replies : List Reply) :
    (op.Unusable ∨ ¬ op.IsWritable → ∃ message,
      (c.perform op).run replies = ⟨.error (.invalid message), [], replies⟩) ∧
    (¬ op.Unusable → op.IsWritable → ∀ url, c.client.urlFor op.call.path = .ok url →
      requests ((c.perform op).run replies).events = [op.call.request c.client url] ∧
        "op" ∉ op.call.arguments.given.names) :=
  ⟨fun refused => c.exists_run_perform_eq_error refused replies,
    fun usable writable _ resolves =>
      ⟨c.requests_perform_of_usable usable writable resolves replies, op.op_not_mem_arguments⟩⟩

/-- A release of no machine, one of a machine while there is no connection, and an allocation with
a minimum that is one digit too long. -/
theorem perform_sends_release :
    let c : Controller := ⟨{ baseUrl := "http://maas:5240/MAAS" }, { release := [2, 0] }, .empty⟩
    (∃ message, (c.perform (.releaseMachines [] "done")).run [] =
        ⟨.error (.invalid message), [], []⟩) ∧
      requests ((c.perform (.releaseMachines ["4y3ha3"] "")).run []).events =
        [{ verb := .post, url := "http://maas:5240/MAAS/api/2.0/machines/",
           query := [("op", .text "release")],
           form := some [("machines", .list [.text "4y3ha3"])],
           timeout := some (.whole 30), verify := true }] ∧
      ∃ message, (c.perform (.allocateMachine
          { minMemory := some (10 ^ Numeral.digitLimit) })).run [] =
        ⟨.error (.invalid message), [], []⟩ := by
  intro c
  have resolves : c.client.urlFor "machines/" = .ok "http://maas:5240/MAAS/api/2.0/machines/" := by
    cbv
  have long : ¬ (Operation.allocateMachine
      { minMemory := some (10 ^ Numeral.digitLimit) }).IsWritable := fun writable =>
    Numeral.not_isWritable_pow (writable _ (List.mem_singleton.2 rfl))
  exact ⟨(c.perform_sends (.releaseMachines [] "done") []).1 (.inl rfl),
    ((c.perform_sends (.releaseMachines ["4y3ha3"] "") []).2 (by simp [Operation.Unusable])
      (.of_numbers_eq_nil rfl) _ resolves).1,
    (c.perform_sends _ []).1 (.inr long)⟩

end Controller
end BareMetal
