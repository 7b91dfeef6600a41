/-
# Machines

A machine comes with its zone, its pool, its interfaces and its block devices. A
physical block device is in two lists, and a newer state of it is written to
both.
-/

import BareMetal.NameMap
import BareMetal.Network.Interface
import BareMetal.Node.Pool
import BareMetal.Node.Zone
import BareMetal.Storage.BlockDevice

namespace BareMetal

/-- A machine. The memory is in megabytes. -/
structure Machine where
  resourceUri : String
  systemId : String
  hostname : String
  fqdn : String
  operatingSystem : String
  distroSeries : String
  memory : Int
  cpuCount : Int
  powerState : String
  statusName : String
  zone : Zone
  architecture : String := ""
  statusMessage : String := ""
  pool : Option Pool := none
  tags : List String := []
  ownerData : NameMap String := .empty
  ipAddresses : List String := []
  bootInterface : Option Interface := none
  interfaces : List Interface := []
  physicalBlockDevices : List BlockDevice := []
  blockDevices : List BlockDevice := []
deriving DecidableEq, Repr

namespace Machine

/-- The interface with an identifier. -/
def interface (m : Machine) (id : Int) : Option Interface :=
  findById Interface.id id m.interfaces

/-- The block device with an identifier. -/
def blockDevice (m : Machine) (id : Int) : Option BlockDevice :=
  findById BlockDevice.id id m.blockDevices

/-- The physical block device with an identifier. -/
def physicalBlockDevice (m : Machine) (id : Int) : Option BlockDevice :=
  findById BlockDevice.id id m.physicalBlockDevices

/-- The machine with a newer state of one of its block devices, in both lists
that it may be in. The failure for an unknown device shows its identifier. -/
def withBlockDevice (m : Machine) (new : BlockDevice) : Except Failure Machine :=
  if (m.blockDevice new.id).isNone && (m.physicalBlockDevice new.id).isNone then do
    let id ← Numeral.write new.id
    .error (.plain .missing s!"block device {id} not found on machine {m.systemId}")
  else
    .ok { m with
      blockDevices := replaceById BlockDevice.id new m.blockDevices
      physicalBlockDevices := replaceById BlockDevice.id new m.physicalBlockDevices }

/-- The wire fields of a machine. -/
@[reducible] def schema : Schema := [
  { name := "resource_uri", shape := .text },
  { name := "system_id", shape := .text },
  { name := "hostname", shape := .text },
  { name := "fqdn", shape := .text },
  { name := "tag_names", shape := .list .text },
  { name := "owner_data", shape := .map .text, default := some [] },
  { name := "osystem", shape := .text },
  { name := "distro_series", shape := .text },
  { name := "architecture", shape := .nullable .text, default := some none },
  { name := "memory", shape := .number },
  { name := "cpu_count", shape := .number },
  { name := "ip_addresses", shape := .list .text },
  { name := "power_state", shape := .text },
  { name := "status_name", shape := .text },
  { name := "status_message", shape := .nullable .text, default := some none },
  { name := "boot_interface", shape := .nullable .object, default := some none },
  { name := "interface_set", shape := .objects },
  { name := "zone", shape := .object },
  { name := "pool", shape := .nullable .object, default := some none },
  { name := "physicalblockdevice_set", shape := .objects },
  { name := "blockdevice_set", shape := .objects }]

/-- The machine of a row. -/
def ofRow : schema.Row → Version → Except Failure Machine
  | (resourceUri, systemId, hostname, fqdn, tags, ownerData, operatingSystem, distroSeries,
      architecture, memory, cpuCount, ipAddresses, powerState, statusName, statusMessage,
      bootInterface, interfaces, zone, pool, physicalBlockDevices, blockDevices, ()),
    version => do
    let bootInterface ← Interface.reader.readInnerOptional version bootInterface
    let interfaces ← Interface.reader.readInnerList version interfaces
    let zone ← Zone.reader.readInner version zone
    let pool ← Pool.reader.readInnerOptional version pool
    let physicalBlockDevices ← BlockDevice.reader.readInnerList version physicalBlockDevices
    let blockDevices ← BlockDevice.reader.readInnerList version blockDevices
    return { resourceUri, systemId, hostname, fqdn, operatingSystem, distroSeries, memory,
             cpuCount, powerState, statusName, zone, architecture := architecture.getD "",
             statusMessage := statusMessage.getD "", pool, tags,
             ownerData := .ofEntries ownerData, ipAddresses, bootInterface, interfaces,
             physicalBlockDevices, blockDevices }

/-- Reads machines. -/
def reader : Reader Machine := .ofSchema "machine" schema ofRow

/-- The row of a machine. -/
def toRow (m : Machine) : schema.Row :=
  (m.resourceUri, m.systemId, m.hostname, m.fqdn, m.tags, m.ownerData.entries,
    m.operatingSystem, m.distroSeries, some m.architecture, m.memory, m.cpuCount, m.ipAddresses,
    m.powerState, m.statusName, some m.statusMessage, m.bootInterface.map Interface.toEntries,
    m.interfaces.map Interface.toEntries, m.zone.toEntries, m.pool.map Pool.toEntries,
    m.physicalBlockDevices.map BlockDevice.toEntries, m.blockDevices.map BlockDevice.toEntries, ())

/-- The wire form of a machine, with every field written. -/
def toEntries (m : Machine) : Entries Datum := schema.writeEntries m.toRow

end Machine

end BareMetal
