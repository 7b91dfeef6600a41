/-
# Subnets

A subnet comes with the VLAN that it is on.
-/

import BareMetal.Network.Vlan

namespace BareMetal

/-- An IP subnet. -/
structure Subnet where
  resourceUri : String
  id : Int
  name : String
  space : String
  cidr : String
  vlan : Vlan
  gateway : String := ""
  dnsServers : List String := []
deriving DecidableEq, Repr

namespace Subnet

/-- The wire fields of a subnet. -/
@[reducible] def schema : Schema := [
  { name := "resource_uri", shape := .text },
  { name := "id", shape := .number },
  { name := "name", shape := .text },
  { name := "space", shape := .text },
  { name := "gateway_ip", shape := .nullable .text, default := some none },
  { name := "cidr", shape := .text },
  { name := "vlan", shape := .object },
  { name := "dns_servers", shape := .nullable (.list .text), default := some none }]

/-- The subnet of a row. -/
def ofRow : schema.Row → Version → Except Failure Subnet
  | (resourceUri, id, name, space, gateway, cidr, vlan, dnsServers, ()), version => do
    let vlan ← Vlan.reader.readInner version vlan
    return { resourceUri, id, name, space, cidr, vlan, gateway := gateway.getD "",
             dnsServers := dnsServers.getD [] }

/-- Reads subnets. -/
def reader : Reader Subnet := .ofSchema "subnet" schema ofRow

/-- The row of a subnet. -/
def toRow (s : Subnet) : schema.Row :=
  (s.resourceUri, s.id, s.name, s.space, some s.gateway, s.cidr, s.vlan.toEntries,
    some s.dnsServers, ())

/-- The wire form of a subnet, with every field written. -/
def toEntries (s : Subnet) : Entries Datum := schema.writeEntries s.toRow

end Subnet

end BareMetal
