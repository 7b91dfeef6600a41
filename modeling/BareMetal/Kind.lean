/-
# Kinds of entities

The nineteen kinds, the type of the entities of each, and an entity of any kind.
-/

import BareMetal.Asset.BootResource
import BareMetal.Asset.StoredFile
import BareMetal.Network.Domain
import BareMetal.Network.Fabric
import BareMetal.Network.Space
import BareMetal.Network.StaticRoute
import BareMetal.Node.Device
import BareMetal.Node.Machine
import BareMetal.Node.Tag
import BareMetal.Storage.VolumeGroup

namespace BareMetal

/-- A kind of entity. -/
inductive Kind where
  | vlan
  | subnet
  | link
  | interface
  | fabric
  | space
  | staticRoute
  | fileSystem
  | partition
  | blockDevice
  | volumeGroup
  | zone
  | pool
  | domain
  | tag
  | bootResource
  | storedFile
  | device
  | machine
deriving DecidableEq, Repr

namespace Kind

/-- The type of the entities of a kind. -/
@[reducible] def Carrier : Kind → Type
  | vlan => Vlan
  | subnet => Subnet
  | link => Link
  | interface => Interface
  | fabric => Fabric
  | space => Space
  | staticRoute => StaticRoute
  | fileSystem => FileSystem
  | partition => Partition
  | blockDevice => BlockDevice
  | volumeGroup => VolumeGroup
  | zone => Zone
  | pool => Pool
  | domain => Domain
  | tag => Tag
  | bootResource => BootResource
  | storedFile => StoredFile
  | device => Device
  | machine => Machine

/-- The wire fields of a kind. -/
def schema : Kind → Schema
  | vlan => Vlan.schema
  | subnet => Subnet.schema
  | link => Link.schema
  | interface => Interface.schema
  | fabric => Fabric.schema
  | space => Space.schema
  | staticRoute => StaticRoute.schema
  | fileSystem => FileSystem.schema
  | partition => Partition.schema
  | blockDevice => BlockDevice.schema
  | volumeGroup => VolumeGroup.schema
  | zone => Zone.schema
  | pool => Pool.schema
  | domain => Domain.schema
  | tag => Tag.schema
  | bootResource => BootResource.schema
  | storedFile => StoredFile.schema
  | device => Device.schema
  | machine => Machine.schema

/-- The reader of a kind. -/
def reader : (k : Kind) → Reader k.Carrier
  | vlan => Vlan.reader
  | subnet => Subnet.reader
  | link => Link.reader
  | interface => Interface.reader
  | fabric => Fabric.reader
  | space => Space.reader
  | staticRoute => StaticRoute.reader
  | fileSystem => FileSystem.reader
  | partition => Partition.reader
  | blockDevice => BlockDevice.reader
  | volumeGroup => VolumeGroup.reader
  | zone => Zone.reader
  | pool => Pool.reader
  | domain => Domain.reader
  | tag => Tag.reader
  | bootResource => BootResource.reader
  | storedFile => StoredFile.reader
  | device => Device.reader
  | machine => Machine.reader

/-- The wire form of an entity of a kind. -/
def toEntries : (k : Kind) → k.Carrier → Entries Datum
  | vlan => Vlan.toEntries
  | subnet => Subnet.toEntries
  | link => Link.toEntries
  | interface => Interface.toEntries
  | fabric => Fabric.toEntries
  | space => Space.toEntries
  | staticRoute => StaticRoute.toEntries
  | fileSystem => FileSystem.toEntries
  | partition => Partition.toEntries
  | blockDevice => BlockDevice.toEntries
  | volumeGroup => VolumeGroup.toEntries
  | zone => Zone.toEntries
  | pool => Pool.toEntries
  | domain => Domain.toEntries
  | tag => Tag.toEntries
  | bootResource => BootResource.toEntries
  | storedFile => StoredFile.toEntries
  | device => Device.toEntries
  | machine => Machine.toEntries

instance decidableEqCarrier : (k : Kind) → DecidableEq k.Carrier
  | vlan => inferInstanceAs (DecidableEq Vlan)
  | subnet => inferInstanceAs (DecidableEq Subnet)
  | link => inferInstanceAs (DecidableEq Link)
  | interface => inferInstanceAs (DecidableEq Interface)
  | fabric => inferInstanceAs (DecidableEq Fabric)
  | space => inferInstanceAs (DecidableEq Space)
  | staticRoute => inferInstanceAs (DecidableEq StaticRoute)
  | fileSystem => inferInstanceAs (DecidableEq FileSystem)
  | partition => inferInstanceAs (DecidableEq Partition)
  | blockDevice => inferInstanceAs (DecidableEq BlockDevice)
  | volumeGroup => inferInstanceAs (DecidableEq VolumeGroup)
  | zone => inferInstanceAs (DecidableEq Zone)
  | pool => inferInstanceAs (DecidableEq Pool)
  | domain => inferInstanceAs (DecidableEq Domain)
  | tag => inferInstanceAs (DecidableEq Tag)
  | bootResource => inferInstanceAs (DecidableEq BootResource)
  | storedFile => inferInstanceAs (DecidableEq StoredFile)
  | device => inferInstanceAs (DecidableEq Device)
  | machine => inferInstanceAs (DecidableEq Machine)

end Kind

/-- An entity of some kind. -/
structure Entity where
  kind : Kind
  value : kind.Carrier

instance : DecidableEq Entity := fun a b =>
  match a, b with
  | ⟨k, x⟩, ⟨l, y⟩ =>
    if h : k = l then by
      subst h
      exact if h : x = y then .isTrue (by rw [h]) else .isFalse (by simpa using h)
    else .isFalse fun e => h (congrArg Entity.kind e)

end BareMetal
