/-
# The report

The report connects to a controller, lists its zones and its fabrics, and prints
a summary of its machines. It asks for the version, the zones, the fabrics and
the machines, in this order, and stops at the first failure.

A failure is put into the log and ends the report with code 1:

| failure | record |
| --- | --- |
| a value that is of no use | `Configuration error: ` |
| a lack of permission | `Permission denied, check credentials: ` |
| any other of the controller | `MAAS error: ` |
| no reply | `Connection error: ` |

Any other failure is not handled.
-/

import BareMetal.Settings
import BareMetal.Size

namespace BareMetal
namespace Report

/-- The logger of the report. -/
def logger : String := "live_example"

/-- Puts a record into the log. -/
def info (message : String) : Exchange Unit := Exchange.log .info logger message

/-- Prints a line. -/
def print (line : String) : Exchange Unit := Exchange.emit (.print line)

/-- Prints several lines. -/
def printAll (lines : List String) : Exchange Unit := lines.forM print

/-- The rule above and below a title. -/
def rule : String := String.ofList (List.replicate 70 '=')

/-- A title between two rules. -/
def banner (title : String) : List String := [rule, title, rule]

/-- Texts with commas between them. -/
def listed (texts : List String) : String := ", ".intercalate texts

/-- The line of a partition. -/
def partitionLine (p : Partition) : Except Failure String := do
  let mount := (p.filesystem.map (·.mountPoint)).getD ""
  let size ← Size.text (some (.whole p.size))
  return s!"    - {p.path}: {size} {mount}"

/-- The line of a block device. -/
def diskLine (d : BlockDevice) : Except Failure String := do
  let size ← Size.text (some (.whole d.size))
  return s!"  Disk {d.name}: {size}, {d.usedFor}"

/-- The lines of a machine that say what it is. -/
def headLines (m : Machine) : List String :=
  [s!"{m.hostname} ({m.systemId})",
    s!"  Status: {m.statusName}, power {m.powerState}",
    s!"  Zone: {m.zone.name}",
    s!"  OS: {m.operatingSystem} {m.distroSeries}",
    s!"  CPUs: {m.cpuCount}, memory {m.memory} MB"] ++
  (match m.bootInterface with
    | some i => [s!"  Boot interface: {i.name} ({i.macAddress})"]
    | none => [])

/-- Prints a line that may itself be in fault. -/
def printLine (line : Except Failure String) : Exchange Unit := do
  print (← Exchange.ofExcept line)

/-- Prints a block device and its partitions. -/
def printDisk (d : BlockDevice) : Exchange Unit := do
  printLine (diskLine d)
  d.partitions.forM (printLine <| partitionLine ·)

/-- Prints a machine. -/
def printMachine (m : Machine) : Exchange Unit := do
  printAll (headLines m)
  m.blockDevices.forM printDisk
  print ""

/-- Loads the settings. -/
def load (env : Environment) : Exchange Settings := do
  info "Loading configuration..."
  let settings ← Exchange.ofExcept (Settings.ofEnvironment env)
  info "✓ Configuration loaded"
  info s!"  URL: {settings.url}"
  info s!"  API versions: {listed settings.apiVersions}"
  print ""
  return settings

/-- Connects to the controller. -/
def connect (settings : Settings) : Exchange Controller := do
  info "Connecting to MAAS controller..."
  let controller ← Controller.connect settings.url settings.apiVersions
    (some (.float settings.timeout)) settings.verify
  info s!"  Capabilities: {listed controller.capabilities.names}"
  print ""
  return controller

/-- The record of a fabric. -/
def fabricText (f : Fabric) : String :=
  s!"  - Fabric {f.name}: VLANs {listed (f.vlans.map (toString ·.vid))}"

/-- Lists the zones and the fabrics. -/
def listNetworks (controller : Controller) : Exchange Unit := do
  let zones ← controller.perform .zones
  info s!"Found {zones.length} zone(s): {listed (zones.map (·.name))}"
  let fabrics ← controller.perform .fabrics
  fabrics.forM (info <| fabricText ·)
  print ""

/-- Lists the machines. -/
def listMachines (controller : Controller) : Exchange Unit := do
  info "Fetching machine list..."
  let machines ← controller.perform (.machines {})
  info s!"Found {machines.length} machine(s)"
  print ""
  printAll (banner "Machine Summary")
  machines.forM printMachine

/-- The whole report. -/
def report (env : Environment) : Exchange Unit := do
  let settings ← load env
  let controller ← connect settings
  listNetworks controller
  listMachines controller

/-- How the record of a failure begins, if the failure is handled. -/
def heading? (e : Failure) : Option String :=
  if e.kind.isBadValue then some "Configuration error"
  else if e.kind.isReported then
    some (if e.isPermissionDenied then "Permission denied, check credentials" else "MAAS error")
  else if e.kind.isTransport then some "Connection error"
  else none

/-- Ends with a code: 0 after success and 1 after a failure that is handled. -/
def exitCode (result : Except Failure Unit) : Exchange Nat :=
  match result with
  | .ok () => pure 0
  | .error e =>
    match heading? e with
    | some heading => do
      Exchange.log .error logger s!"{heading}: {e.message}"
      return 1
    | none => Exchange.fail e

/-- The report with its title; it ends with a code. -/
def run (env : Environment) : Exchange Nat := do
  printAll (banner "MAAS Inventory Example")
  print ""
  exitCode (← (report env).attempt)

end Report
end BareMetal
