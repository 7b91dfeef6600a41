/-
# Interfaces

An interface belongs to a machine or a device and is connected to subnets by its
links.
-/

import BareMetal.Network.Subnet

namespace BareMetal

/-- What connects an interface to a subnet. -/
structure Link where
  id : Int
  mode : String
  ipAddress : String := ""
  subnet : Option Subnet := none
deriving DecidableEq, Repr

namespace Link

/-- The wire fields of a link. One that is not configured has neither an address
nor a subnet. -/
@[reducible] def schema : Schema := [
  { name := "id", shape := .number },
  { name := "mode", shape := .text },
  { name := "subnet", shape := .nullable .object, default := some none },
  { name := "ip_address", shape := .text, default := some "" }]

/-- The link of a row. -/
def ofRow : schema.Row → Version → Except Failure Link
  | (id, mode, subnet, ipAddress, ()), version => do
    let subnet ← Subnet.reader.readInnerOptional version subnet
    return { id, mode, ipAddress, subnet }

/-- Reads links. -/
def reader : Reader Link := .ofSchema "link" schema ofRow

/-- The row of a link. -/
def toRow (l : Link) : schema.Row :=
  (l.id, l.mode, l.subnet.map Subnet.toEntries, l.ipAddress, ())

/-- The wire form of a link, with every field written. -/
def toEntries (l : Link) : Entries Datum := schema.writeEntries l.toRow

end Link

/-- A network interface of a machine or a device. Parents and children are
interfaces, by name. -/
structure Interface where
  resourceUri : String
  id : Int
  name : String
  type : String
  enabled : Bool
  effectiveMtu : Int
  macAddress : String := ""
  params : String := ""
  vlan : Option Vlan := none
  tags : List String := []
  links : List Link := []
  parents : List String := []
  children : List String := []
deriving DecidableEq, Repr

namespace Interface

/-- The wire fields of an interface. Bonds and bridges send their settings as a
map, which counts as none. -/
@[reducible] def schema : Schema := [
  { name := "resource_uri", shape := .text },
  { name := "id", shape := .number },
  { name := "name", shape := .text },
  { name := "type", shape := .text },
  { name := "enabled", shape := .flag },
  { name := "tags", shape := .list .text, default := some [] },
  { name := "vlan", shape := .nullable .object, default := some none },
  { name := "links", shape := .objects },
  { name := "mac_address", shape := .nullable .text, default := some none },
  { name := "effective_mtu", shape := .number },
  { name := "params", shape := .prepared .settingsAsEmpty .text, default := some "" },
  { name := "parents", shape := .list .text },
  { name := "children", shape := .list .text }]

/-- The interface of a row. -/
def ofRow : schema.Row → Version → Except Failure Interface
  | (resourceUri, id, name, type, enabled, tags, vlan, links, macAddress, effectiveMtu, params,
      parents, children, ()), version => do
    let vlan ← Vlan.reader.readInnerOptional version vlan
    let links ← Link.reader.readInnerList version links
    return { resourceUri, id, name, type, enabled, effectiveMtu,
             macAddress := macAddress.getD "", params, vlan, tags, links, parents, children }

/-- Reads interfaces. -/
def reader : Reader Interface := .ofSchema "interface" schema ofRow

/-- The row of an interface. -/
def toRow (i : Interface) : schema.Row :=
  (i.resourceUri, i.id, i.name, i.type, i.enabled, i.tags, i.vlan.map Vlan.toEntries,
    i.links.map Link.toEntries, some i.macAddress, i.effectiveMtu, i.params, i.parents,
    i.children, ())

/-- The wire form of an interface, with every field written. -/
def toEntries (i : Interface) : Entries Datum := schema.writeEntries i.toRow

end Interface

end BareMetal
