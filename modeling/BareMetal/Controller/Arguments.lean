/-
# Arguments of operations

What can be asked of a controller, and the parameters that it is sent as. A
number that makes no sense is refused here, and so is one with too many digits
to be written.
-/

import BareMetal.Controller.Plan
import BareMetal.Storage.BlockDevice
import BareMetal.Text.Base64

namespace BareMetal

/-- What an allocated machine has to satisfy, and what is recorded with it. -/
structure Allocation where
  hostname : String := ""
  systemId : String := ""
  architecture : String := ""
  minCpuCount : Option Int := none
  /-- In megabytes. -/
  minMemory : Option Int := none
  tags : List String := []
  notTags : List String := []
  zone : String := ""
  notInZone : List String := []
  agentName : String := ""
  comment : String := ""
  /-- Only checks whether there is such a machine. -/
  dryRun : Bool := false
deriving Repr, DecidableEq

/-- How a machine is deployed. -/
structure Deployment where
  /-- Sent in base64. -/
  userData : Option (List UInt8) := none
  distroSeries : String := ""
  kernel : String := ""
  comment : String := ""
deriving Repr, DecidableEq

/-- Which machines to list. -/
structure MachineFilter where
  systemIds : List String := []
  hostnames : List String := []
  zone : String := ""
  pool : String := ""
deriving Repr, DecidableEq

/-- Which devices to list. -/
structure DeviceFilter where
  systemIds : List String := []
  hostnames : List String := []
  macAddresses : List String := []
deriving Repr, DecidableEq

/-- A device to be registered. -/
structure NewDevice where
  macAddresses : List String
  hostname : String := ""
  domain : String := ""
  parent : String := ""
deriving Repr, DecidableEq

/-- A partition to be created; without a size it takes the space that is left. -/
structure NewPartition where
  size : Option Int := none
  uuid : String := ""
  bootable : Option Bool := none
deriving Repr, DecidableEq

/-- A minimum, which must not be negative, as a parameter. -/
def minimumParam (label name : String) : Option Int → Except Failure Params
  | none => .ok []
  | some n => do
    requireNumber (0 ≤ n) s!"invalid {label}" n
    Plan.number name n

/-- The form of an allocation. -/
def Allocation.params (a : Allocation) : Except Failure Params := do
  let cpuCount ← minimumParam "min_cpu_count" "cpu_count" a.minCpuCount
  let memory ← minimumParam "min_memory" "mem" a.minMemory
  return Plan.given "name" a.hostname ++ Plan.given "system_id" a.systemId ++
    Plan.given "arch" a.architecture ++ cpuCount ++ memory ++
    Plan.givenJoined "tags" a.tags ++ Plan.givenJoined "not_tags" a.notTags ++
    Plan.given "zone" a.zone ++ Plan.givenJoined "not_in_zone" a.notInZone ++
    Plan.given "agent_name" a.agentName ++ Plan.given "comment" a.comment ++
    (if a.dryRun then [("dry_run", .text "true")] else [])

/-- The form of a deployment. -/
def Deployment.params (d : Deployment) : Params :=
  (match d.userData with
    | some bytes => [("user_data", .text (String.ofList (Text.Base64.encode bytes)))]
    | none => []) ++
    Plan.given "distro_series" d.distroSeries ++ Plan.given "hwe_kernel" d.kernel ++
    Plan.given "comment" d.comment

/-- The form of a new partition. -/
def NewPartition.params (p : NewPartition) : Except Failure Params := do
  let size ←
    match p.size with
    | none => pure []
    | some n => do
      requireNumber (0 < n) "invalid partition size" n
      Plan.number "size" n
  return size ++ Plan.given "uuid" p.uuid ++
    (match p.bootable with
      | some b => [("bootable", .text (if b then "true" else "false"))]
      | none => [])

/-- The form for making a file system. -/
def formatParams (fsType uuid label : String) : Except Failure Params := do
  require (!fsType.isEmpty) "missing fs_type"
  return [("fs_type", .text fsType)] ++ Plan.given "uuid" uuid ++ Plan.given "label" label

/-- The form for mounting a file system. -/
def mountParams (mountPoint mountOptions : String) : Except Failure Params := do
  require (!mountPoint.isEmpty) "missing mount_point"
  return [("mount_point", .text mountPoint)] ++ Plan.given "mount_options" mountOptions

/-- The path of the partitions of a block device. -/
def BlockDevice.partitionsPath (d : BlockDevice) : String :=
  String.ofList (Url.dropEndSlashes d.resourceUri.toList) ++ "/partitions/"

end BareMetal
