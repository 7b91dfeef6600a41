/-
# Entities as they are sent

The plain form of every entity: a map with all the fields of its kind under their wire
names, entities inside in the same form, null for what is absent. Maps and sets have no
order of their own, so a layout says in which order they are written.

| field | wire name |
| --- | --- |
| `dhcp` of a VLAN | `dhcp_on` |
| `gateway` of a subnet | `gateway_ip` |
| `type` of a file system | `fstype` |
| `kernelFlavor` of a boot resource | `kflavor` |
| `tags` of a device or machine | `tag_names` |
| `interfaces` of a device or machine | `interface_set` |
| `operatingSystem` of a machine | `osystem` |
| `blockDevices` of a machine | `blockdevice_set` |
| `physicalBlockDevices` of a machine | `physicalblockdevice_set` |
-/

import BareMetal.Proofs.Reader.Assembly

namespace BareMetal

/-- The order in which the entries of a map and the names of a set are written. -/
structure Layout where
  entries : Entries Datum → Entries Datum
  names : List String → List String
  entries_perm : ∀ es, (entries es).Perm es
  names_perm : ∀ ns, (names ns).Perm ns

namespace Layout

/-- A map with the given entries. -/
def object (l : Layout) (es : Entries Datum) : Datum := .map (l.entries es)

/-- The layout that keeps the order. -/
def inOrder : Layout := ⟨id, id, List.Perm.refl, List.Perm.refl⟩

/-- The layout that turns the order round. -/
def reversed : Layout :=
  ⟨List.reverse, List.reverse, List.reverse_perm, List.reverse_perm⟩

end Layout

namespace Datum

/-- A list of texts. -/
def texts (ss : List String) : Datum := .list (ss.map .text)

/-- A value, or null for none. -/
def orNull (o : Option Datum) : Datum := o.getD .null

end Datum

variable (l : Layout)

/-- The wire names and values of a VLAN. -/
def Vlan.wire (v : Vlan) : Entries Datum := [
  ("resource_uri", .text v.resourceUri),
  ("id", .int v.id),
  ("name", .text v.name),
  ("fabric", .text v.fabric),
  ("vid", .int v.vid),
  ("mtu", .int v.mtu),
  ("dhcp_on", .bool v.dhcp),
  ("primary_rack", .text v.primaryRack),
  ("secondary_rack", .text v.secondaryRack)]

/-- The wire names and values of a subnet, with its VLAN as an entity inside. -/
def Subnet.wire (s : Subnet) : Entries Datum := [
  ("resource_uri", .text s.resourceUri),
  ("id", .int s.id),
  ("name", .text s.name),
  ("space", .text s.space),
  ("gateway_ip", .text s.gateway),
  ("cidr", .text s.cidr),
  ("vlan", l.object s.vlan.wire),
  ("dns_servers", .texts s.dnsServers)]

/-- The wire names and values of a link, with null for a missing subnet. -/
def Link.wire (k : Link) : Entries Datum := [
  ("id", .int k.id),
  ("mode", .text k.mode),
  ("subnet", .orNull (k.subnet.map fun s => l.object (s.wire l))),
  ("ip_address", .text k.ipAddress)]

/-- The wire names and values of an interface, with its VLAN and its links inside. -/
def Interface.wire (i : Interface) : Entries Datum := [
  ("resource_uri", .text i.resourceUri),
  ("id", .int i.id),
  ("name", .text i.name),
  ("type", .text i.type),
  ("enabled", .bool i.enabled),
  ("tags", .texts i.tags),
  ("vlan", .orNull (i.vlan.map fun v => l.object v.wire)),
  ("links", .list (i.links.map fun k => l.object (k.wire l))),
  ("mac_address", .text i.macAddress),
  ("effective_mtu", .int i.effectiveMtu),
  ("params", .text i.params),
  ("parents", .texts i.parents),
  ("children", .texts i.children)]

/-- The wire names and values of a fabric, with its VLANs inside. -/
def Fabric.wire (f : Fabric) : Entries Datum := [
  ("resource_uri", .text f.resourceUri),
  ("id", .int f.id),
  ("name", .text f.name),
  ("class_type", .text f.classType),
  ("vlans", .list (f.vlans.map fun v => l.object v.wire))]

/-- The wire names and values of a space, with its VLANs and its subnets inside. -/
def Space.wire (s : Space) : Entries Datum := [
  ("resource_uri", .text s.resourceUri),
  ("id", .int s.id),
  ("name", .text s.name),
  ("class_type", .text s.classType),
  ("vlans", .list (s.vlans.map fun v => l.object v.wire)),
  ("subnets", .list (s.subnets.map fun n => l.object (n.wire l)))]

/-- The wire names and values of a static route, with the subnets at both of its ends. -/
def StaticRoute.wire (r : StaticRoute) : Entries Datum := [
  ("resource_uri", .text r.resourceUri),
  ("id", .int r.id),
  ("source", l.object (r.source.wire l)),
  ("destination", l.object (r.destination.wire l)),
  ("gateway_ip", .text r.gatewayIp),
  ("metric", .int r.metric)]

/-- The wire names and values of a file system, which has no entity inside. -/
def FileSystem.wire (f : FileSystem) : Entries Datum := [
  ("fstype", .text f.type),
  ("mount_point", .text f.mountPoint),
  ("label", .text f.label),
  ("uuid", .text f.uuid)]

/-- The wire names and values of a partition, with its file system inside. -/
def Partition.wire (p : Partition) : Entries Datum := [
  ("resource_uri", .text p.resourceUri),
  ("id", .int p.id),
  ("path", .text p.path),
  ("uuid", .text p.uuid),
  ("used_for", .text p.usedFor),
  ("size", .int p.size),
  ("tags", .texts p.tags),
  ("filesystem", .orNull (p.filesystem.map fun f => l.object f.wire))]

/-- The wire names and values of a block device, with its file system and its partitions
inside. -/
def BlockDevice.wire (d : BlockDevice) : Entries Datum := [
  ("resource_uri", .text d.resourceUri),
  ("id", .int d.id),
  ("uuid", .text d.uuid),
  ("name", .text d.name),
  ("model", .text d.model),
  ("id_path", .text d.idPath),
  ("path", .text d.path),
  ("used_for", .text d.usedFor),
  ("tags", .texts d.tags),
  ("block_size", .int d.blockSize),
  ("used_size", .int d.usedSize),
  ("size", .int d.size),
  ("filesystem", .orNull (d.filesystem.map fun f => l.object f.wire)),
  ("partitions", .list (d.partitions.map fun p => l.object (p.wire l)))]

/-- The wire names and values of a volume group, with its block devices inside. -/
def VolumeGroup.wire (g : VolumeGroup) : Entries Datum := [
  ("resource_uri", .text g.resourceUri),
  ("id", .int g.id),
  ("name", .text g.name),
  ("uuid", .text g.uuid),
  ("size", .int g.size),
  ("devices", .list (g.devices.map fun d => l.object (d.wire l)))]

/-- The wire names and values of a zone. -/
def Zone.wire (z : Zone) : Entries Datum := [
  ("resource_uri", .text z.resourceUri),
  ("name", .text z.name),
  ("description", .text z.description)]

/-- The wire names and values of a resource pool. -/
def Pool.wire (p : Pool) : Entries Datum := [
  ("resource_uri", .text p.resourceUri),
  ("name", .text p.name),
  ("description", .text p.description)]

/-- The wire names and values of a domain, with null for a missing time to live. -/
def Domain.wire (d : Domain) : Entries Datum := [
  ("resource_uri", .text d.resourceUri),
  ("id", .int d.id),
  ("name", .text d.name),
  ("ttl", .orNull (d.ttl.map .int)),
  ("authoritative", .bool d.authoritative),
  ("resource_record_count", .int d.resourceRecordCount)]

/-- The wire names and values of a tag. -/
def Tag.wire (t : Tag) : Entries Datum := [
  ("resource_uri", .text t.resourceUri),
  ("name", .text t.name),
  ("comment", .text t.comment),
  ("definition", .text t.definition),
  ("kernel_opts", .text t.kernelOpts)]

/-- The wire names and values of a boot resource; its subarchitectures are one text, joined
by commas. -/
def BootResource.wire (b : BootResource) : Entries Datum := [
  ("resource_uri", .text b.resourceUri),
  ("id", .int b.id),
  ("name", .text b.name),
  ("type", .text b.type),
  ("architecture", .text b.architecture),
  ("subarches", .text (",".intercalate (l.names b.subarches.names))),
  ("kflavor", .text b.kernelFlavor)]

/-- The wire names and values of a stored file; its content is in base64. -/
def StoredFile.wire (f : StoredFile) : Entries Datum := [
  ("resource_uri", .text f.resourceUri),
  ("filename", .text f.filename),
  ("anon_resource_uri", .text f.anonResourceUri),
  ("content", .text f.content)]

/-- The wire names and values of a device, with its interfaces and its zone inside. -/
def Device.wire (d : Device) : Entries Datum := [
  ("resource_uri", .text d.resourceUri),
  ("system_id", .text d.systemId),
  ("hostname", .text d.hostname),
  ("fqdn", .text d.fqdn),
  ("parent", .text d.parent),
  ("owner", .text d.owner),
  ("ip_addresses", .texts d.ipAddresses),
  ("tag_names", .texts d.tags),
  ("interface_set", .list (d.interfaces.map fun i => l.object (i.wire l))),
  ("zone", l.object d.zone.wire)]

/-- The wire names and values of a machine, with all that belongs to it inside. -/
def Machine.wire (m : Machine) : Entries Datum := [
  ("resource_uri", .text m.resourceUri),
  ("system_id", .text m.systemId),
  ("hostname", .text m.hostname),
  ("fqdn", .text m.fqdn),
  ("tag_names", .texts m.tags),
  ("owner_data", l.object (m.ownerData.entries.map fun e => (e.1, .text e.2))),
  ("osystem", .text m.operatingSystem),
  ("distro_series", .text m.distroSeries),
  ("architecture", .text m.architecture),
  ("memory", .int m.memory),
  ("cpu_count", .int m.cpuCount),
  ("ip_addresses", .texts m.ipAddresses),
  ("power_state", .text m.powerState),
  ("status_name", .text m.statusName),
  ("status_message", .text m.statusMessage),
  ("boot_interface", .orNull (m.bootInterface.map fun i => l.object (i.wire l))),
  ("interface_set", .list (m.interfaces.map fun i => l.object (i.wire l))),
  ("zone", l.object m.zone.wire),
  ("pool", .orNull (m.pool.map fun p => l.object p.wire)),
  ("physicalblockdevice_set",
    .list (m.physicalBlockDevices.map fun d => l.object (d.wire l))),
  ("blockdevice_set", .list (m.blockDevices.map fun d => l.object (d.wire l)))]

namespace Kind

/-- The wire names and values of an entity of a kind. -/
def wire : (k : Kind) → k.Carrier → Entries Datum
  | vlan => Vlan.wire
  | subnet => Subnet.wire l
  | link => Link.wire l
  | interface => Interface.wire l
  | fabric => Fabric.wire l
  | space => Space.wire l
  | staticRoute => StaticRoute.wire l
  | fileSystem => FileSystem.wire
  | partition => Partition.wire l
  | blockDevice => BlockDevice.wire l
  | volumeGroup => VolumeGroup.wire l
  | zone => Zone.wire
  | pool => Pool.wire
  | domain => Domain.wire
  | tag => Tag.wire
  | bootResource => BootResource.wire l
  | storedFile => StoredFile.wire
  | device => Device.wire l
  | machine => Machine.wire l

/-- An entity of a kind as it is sent. -/
def rendered (k : Kind) (x : k.Carrier) : Datum := l.object (k.wire l x)

end Kind

namespace Shape

/-- A schema writes the entries of an entity as a map, in their order. -/
theorem write_object (es : Entries Datum) : object.write es = .map es := by
  rw [Shape.write]
  exact congrArg Datum.map (List.map_id'' (fun _ => rfl) es)

variable {α : Type} {entries wire : α → Entries Datum} (same : ∀ x, entries x = wire x)
include same

/-- A list of entities is written as the list of their plain forms, if every entity is
written in its plain form. -/
theorem write_objects (xs : List α) :
    objects.write (xs.map entries) = .list (xs.map fun x => Layout.inOrder.object (wire x)) := by
  rw [Shape.write, List.map_map]
  refine congrArg Datum.list (List.map_congr_left fun x _ => ?_)
  exact (write_object (entries x)).trans (congrArg Datum.map (same x))

/-- An entity that may be missing is written as null or in its plain form. -/
theorem write_nullable_object (o : Option α) :
    (nullable object).write (o.map entries) =
      .orNull (o.map fun x => Layout.inOrder.object (wire x)) := by
  cases o with
  | none => rfl
  | some x => exact (write_object (entries x)).trans (congrArg Datum.map (same x))

end Shape

/-- The schema of every kind writes an entity in its plain form, in order. -/
theorem Kind.toEntries_eq_wire (k : Kind) (x : k.Carrier) :
    k.toEntries x = k.wire .inOrder x := by
  have inner (j : Kind) (less : j.depth < k.depth) (y : j.Carrier) :
      j.toEntries y = j.wire .inOrder y := Kind.toEntries_eq_wire j y
  cases k
  case domain =>
    have ttl (o : Option Int) : (Shape.nullable .number).write o = .orNull (o.map .int) := by
      cases o <;> rfl
    exact congrArg (fun d => _ :: _ :: _ :: (_, d) :: _) (ttl x.ttl)
  all_goals
    repeat' first
      | rfl
      | refine congrArg₂ List.cons ?_ ?_
      | refine congrArg (Prod.mk _) ?_
      | refine (Shape.write_object _).trans (congrArg Datum.map ?_)
      | refine Shape.write_objects ?_ _
      | refine Shape.write_nullable_object ?_ _
      | exact inner vlan (by decide)
      | exact inner subnet (by decide)
      | exact inner link (by decide)
      | exact inner interface (by decide)
      | exact inner fileSystem (by decide)
      | exact inner partition (by decide)
      | exact inner blockDevice (by decide)
      | exact inner zone (by decide)
      | exact inner pool (by decide)
termination_by k.depth

end BareMetal
