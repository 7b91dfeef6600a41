/-
# Static routes

A static route leads from one subnet to another.
-/

import BareMetal.Network.Subnet

namespace BareMetal

/-- A static route between two subnets. -/
structure StaticRoute where
  resourceUri : String
  id : Int
  source : Subnet
  destination : Subnet
  gatewayIp : String
  metric : Int
deriving DecidableEq, Repr

namespace StaticRoute

/-- The wire fields of a static route. -/
@[reducible] def schema : Schema := [
  { name := "resource_uri", shape := .text },
  { name := "id", shape := .number },
  { name := "source", shape := .object },
  { name := "destination", shape := .object },
  { name := "gateway_ip", shape := .text },
  { name := "metric", shape := .number }]

/-- The static route of a row. -/
def ofRow : schema.Row → Version → Except Failure StaticRoute
  | (resourceUri, id, source, destination, gatewayIp, metric, ()), version => do
    let source ← Subnet.reader.readInner version source
    let destination ← Subnet.reader.readInner version destination
    return { resourceUri, id, source, destination, gatewayIp, metric }

/-- Reads static routes. -/
def reader : Reader StaticRoute := .ofSchema "static-route" schema ofRow

/-- The row of a static route. -/
def toRow (r : StaticRoute) : schema.Row :=
  (r.resourceUri, r.id, r.source.toEntries, r.destination.toEntries, r.gatewayIp, r.metric, ())

/-- The wire form of a static route, with every field written. -/
def toEntries (r : StaticRoute) : Entries Datum := schema.writeEntries r.toRow

end StaticRoute

end BareMetal
