/-
# Operations of a controller

An operation sends one request and reads an entity, several or nothing from the
reply. Arguments that cannot be used are found before there is a plan.

| operation | status | kind |
| --- | ---: | --- |
| format a partition or a block device, create a logical volume | 404 | bad request |
| start a machine | 404, 409 | bad request |
| allocate a machine | 409 | no match |
| release machines | 409 | cannot complete |
-/

import BareMetal.Asset.BootResource
import BareMetal.Asset.StoredFile
import BareMetal.Controller.Arguments
import BareMetal.Network.Domain
import BareMetal.Network.Fabric
import BareMetal.Network.Space
import BareMetal.Network.StaticRoute
import BareMetal.Node.Device
import BareMetal.Node.Machine
import BareMetal.Node.Tag
import BareMetal.Storage.VolumeGroup

namespace BareMetal

/-- An operation with a result of type `α`. -/
inductive Operation : Type → Type 1 where
  | zones : Operation (List Zone)
  | pools : Operation (List Pool)
  | domains : Operation (List Domain)
  | tags : Operation (List Tag)
  | fabrics : Operation (List Fabric)
  | spaces : Operation (List Space)
  | subnets : Operation (List Subnet)
  | staticRoutes : Operation (List StaticRoute)
  | bootResources : Operation (List BootResource)
  | files (namePrefix : String) : Operation (List StoredFile)
  | getFile (filename : String) : Operation StoredFile
  | fileContent (filename : String) : Operation (List UInt8)
  | machines (filter : MachineFilter) : Operation (List Machine)
  | devices (filter : DeviceFilter) : Operation (List Device)
  | allocateMachine (allocation : Allocation) : Operation Machine
  | releaseMachines (systemIds : List String) (comment : String) : Operation Unit
  | startMachine (machine : Machine) (deployment : Deployment) : Operation Machine
  | createDevice (device : NewDevice) : Operation Device
  | deleteDevice (device : Device) : Operation Unit
  | tagMachines (tagName : String) : Operation (List Machine)
  | addTagToMachine (tag : Tag) (systemId : String) : Operation Unit
  | removeTagFromMachine (tag : Tag) (systemId : String) : Operation Unit
  | blockDevices (systemId : String) : Operation (List BlockDevice)
  | volumeGroups (systemId : String) : Operation (List VolumeGroup)
  | formatPartition (partition : Partition) (fsType uuid label : String) : Operation Partition
  | mountPartition (partition : Partition) (mountPoint mountOptions : String) :
      Operation Partition
  | formatBlockDevice (device : BlockDevice) (fsType uuid : String) : Operation BlockDevice
  | mountBlockDevice (device : BlockDevice) (mountPoint mountOptions : String) :
      Operation BlockDevice
  | createPartition (device : BlockDevice) (partition : NewPartition) : Operation Partition
  | createLogicalVolume (group : VolumeGroup) (name : String) (size : Int) (uuid : String) :
      Operation BlockDevice

namespace Operation

/-- A missing target is reported as a bad request. -/
def missingTarget : StatusTable := [(404, .badRequest)]

/-- The plan of an operation, or the failure of its arguments. -/
def plan {α : Type} : Operation α → Except Failure (Plan α)
  | zones => .ok (.list Zone.reader "zones/")
  | pools => .ok (.list Pool.reader "resourcepools/")
  | domains => .ok (.list Domain.reader "domains/")
  | tags => .ok (.list Tag.reader "tags/")
  | fabrics => .ok (.list Fabric.reader "fabrics/")
  | spaces => .ok (.list Space.reader "spaces/")
  | subnets => .ok (.list Subnet.reader "subnets/")
  | staticRoutes => .ok (.list StaticRoute.reader "static-routes/")
  | bootResources => .ok (.list BootResource.reader "boot-resources/")
  | files namePrefix =>
    .ok (.list StoredFile.reader "files/" (Plan.query (Plan.given "prefix" namePrefix)))
  | getFile filename => do
    require (!filename.isEmpty) "missing filename"
    return .fetch StoredFile.reader s!"files/{filename}/"
  | fileContent filename => do
    require (!filename.isEmpty) "missing filename"
    return { verb := .get, path := s!"files/{filename}/",
             decode := fun version d => do (← StoredFile.reader.read version d).bytes }
  | machines f =>
    .ok (.list Machine.reader "machines/" (Plan.query (Plan.givenList "id" f.systemIds ++
      Plan.givenList "hostname" f.hostnames ++ Plan.given "zone" f.zone ++
      Plan.given "pool" f.pool)))
  | devices f =>
    .ok (.list Device.reader "devices/" (Plan.query (Plan.givenList "id" f.systemIds ++
      Plan.givenList "hostname" f.hostnames ++ Plan.givenList "mac_address" f.macAddresses)))
  | allocateMachine allocation => do
    let params ← allocation.params
    return { Plan.change Machine.reader "machines/" "allocate" params [(409, .noMatch)] with
             record := fun m => some s!"✓ Allocated {m.hostname} ({m.systemId})" }
  | releaseMachines systemIds comment => do
    require (!systemIds.isEmpty) "at least one system ID must be specified"
    return { Plan.command "machines/" "release"
               (Plan.givenList "machines" systemIds ++ Plan.given "comment" comment)
               [(409, .cannotComplete)] with
             record := fun _ => some s!"✓ Released {systemIds.length} machine(s)" }
  | startMachine machine deployment =>
    .ok (.change Machine.reader machine.resourceUri "deploy" deployment.params
      [(404, .badRequest), (409, .badRequest)])
  | createDevice device => do
    require (!device.macAddresses.isEmpty) "at least one MAC address must be specified"
    return .change Device.reader "devices/" ""
      (Plan.givenList "mac_addresses" device.macAddresses ++
        Plan.given "hostname" device.hostname ++ Plan.given "domain" device.domain ++
        Plan.given "parent" device.parent)
  | deleteDevice device =>
    .ok { verb := .delete, path := device.resourceUri, decode := fun _ _ => .ok (),
          record := fun _ => some s!"✓ Deleted device {device.systemId}" }
  | tagMachines tagName => do
    require (!tagName.isEmpty) "missing tag name"
    return .list Machine.reader s!"tags/{tagName}/" none "machines"
  | addTagToMachine tag systemId =>
    .ok (.command tag.resourceUri "update_nodes" (Plan.givenList "add" [systemId]))
  | removeTagFromMachine tag systemId =>
    .ok (.command tag.resourceUri "update_nodes" (Plan.givenList "remove" [systemId]))
  | blockDevices systemId => .ok (.list BlockDevice.reader s!"nodes/{systemId}/blockdevices/")
  | volumeGroups systemId => .ok (.list VolumeGroup.reader s!"nodes/{systemId}/volume-groups/")
  | formatPartition partition fsType uuid label => do
    let params ← formatParams fsType uuid label
    return .change Partition.reader partition.resourceUri "format" params missingTarget
  | mountPartition partition mountPoint mountOptions => do
    let params ← mountParams mountPoint mountOptions
    return .change Partition.reader partition.resourceUri "mount" params
  | formatBlockDevice device fsType uuid => do
    let params ← formatParams fsType uuid ""
    return .change BlockDevice.reader device.resourceUri "format" params missingTarget
  | mountBlockDevice device mountPoint mountOptions => do
    let params ← mountParams mountPoint mountOptions
    return .change BlockDevice.reader device.resourceUri "mount" params
  | createPartition device partition => do
    let params ← partition.params
    return .change Partition.reader device.partitionsPath "" params
  | createLogicalVolume group name size uuid => do
    require (!name.isEmpty) "missing name"
    requireNumber (0 < size) "invalid logical volume size" size
    let size ← Plan.number "size" size
    return .change BlockDevice.reader group.resourceUri "create_logical_volume"
      ([("name", .text name)] ++ size ++ Plan.given "uuid" uuid) missingTarget

end Operation
end BareMetal
