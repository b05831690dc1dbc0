import Interlink.Destination
import Interlink.Peering
import Interlink.Resolver

/-!
# Routes over a peering connection

A route of a VPC that leads over a peering becomes a route over each connection
of the peering that the VPC is an end of. In the unit's own scope it is written
directly; in another scope it is an operation carried out under a role there.

A route is planned once: its key is noted in the run when it is met, before its
route table and destination are resolved, and a key that is noted already is
passed over.
-/

namespace Interlink

/-- A route that the unit writes. -/
structure PeeringRoute where
  key : String
  peeringKey : String
  side : PeeringSide
  vpc : String
  routeTable : String
  routeTableId : String
  destination : Destination
  scope : Scope
deriving DecidableEq, Repr, Inhabited

/-- A route that is written in another scope, under a role. -/
structure CrossAccountRoute where
  key : String
  peeringKey : String
  vpc : String
  routeTable : String
  routeTableId : String
  destination : Destination
  owner : Scope
  ownerAccountId : String
  roleName : String
deriving DecidableEq, Repr, Inhabited

/-- The routes of one pass. -/
structure RouteBatch where
  routes : List PeeringRoute := []
  crossAccountRoutes : List CrossAccountRoute := []
deriving DecidableEq, Repr, Inhabited

namespace RouteBatch

/-- Two batches, one after the other. -/
def append (a b : RouteBatch) : RouteBatch :=
  ⟨a.routes ++ b.routes, a.crossAccountRoutes ++ b.crossAccountRoutes⟩

instance : Append RouteBatch := ⟨append⟩

/-- The number of routes. -/
def size (b : RouteBatch) : Nat := b.routes.length + b.crossAccountRoutes.length

/-- Whether there is no route. -/
def isEmpty (b : RouteBatch) : Bool := b.size == 0

end RouteBatch

/-- The routes of a VPC that lead over a peering, each with its table. -/
def Vpc.routesOver (vpc : Vpc) (peering : String) : List (String × VpcRoute) :=
  vpc.routeTables.flatMap fun table =>
    (table.routes.filter (·.targetsPeering peering)).map fun r => (table.name, r)

namespace Vantage

/-- The destination of a route, which leads from one end to another. -/
def destination (v : Vantage) (t : Topology) (r : VpcRoute) (own peer : PeeringEnd) :
    Lookup Destination := do
  match r.destinationSpec with
  | .cidr block => pure (.cidr block)
  | .ipv6Cidr block => pure (.ipv6Cidr block)
  | .prefixList name =>
    let deployed :=
      (t.prefixList? name).any (·.isDeployedTo own.scope.account own.scope.region)
    if deployed then
      let id ← v.learn (.prefixList name) own.scope
      pure (.prefixList name id)
    else throw (.misconfigured (.prefixListNotAtRouteTable name) own.scope)
  | .peerPrimaryCidr =>
    let vpc ← Lookup.ofExcept (t.requireVpc peer.vpc own.scope)
    match vpc.cidrs with
    | block :: _ => pure (.cidr block)
    | [] =>
      let block ← v.learn (.vpcPrimaryCidr peer.vpc) peer.scope
      pure (.cidr block)

/-- A route over a connection, written directly or elsewhere. -/
def routeOn (v : Vantage) (c : Connection) (side : PeeringSide) (key table tableId : String)
    (destination : Destination) : RouteBatch :=
  let own := c.endOn side
  if own.scope = v.caller then
    { routes :=
        [{ key, peeringKey := c.key, side, vpc := own.vpc, routeTable := table
           routeTableId := tableId, destination, scope := v.caller }] }
  else
    { crossAccountRoutes :=
        [{ key, peeringKey := c.key, vpc := own.vpc, routeTable := table
           routeTableId := tableId, destination, owner := own.scope
           ownerAccountId := own.accountId
           roleName := RolePurpose.peeringRoutes.roleName v.pathPrefix own.scope.region }] }

/-- Plan a route over a connection, unless it is planned already. -/
def planRoute (v : Vantage) (t : Topology) (c : Connection) (side : PeeringSide)
    (table : String) (r : VpcRoute) : Lookup RouteBatch := do
  let own := c.endOn side
  let key := Key.route c.key own.vpc table r.name
  let s ← get
  if s.plannedRoutes.contains key then pure {}
  else
    set { s with plannedRoutes := s.plannedRoutes.add key }
    let tableId ← v.learn (.vpcRouteTable own.vpc table) own.scope
    let destination ← v.destination t r own (c.endOpposite side)
    pure (v.routeOn c side key table tableId destination)

/-- Plan some routes over a connection. -/
def planRoutes (v : Vantage) (t : Topology) (c : Connection) (side : PeeringSide) :
    List (String × VpcRoute) → Lookup RouteBatch
  | [] => pure {}
  | (table, r) :: rest => do
    let first ← v.planRoute t c side table r
    let others ← v.planRoutes t c side rest
    pure (first ++ others)

/-- Plan the routes of a side of a connection, and move the connection on. A
side that is done has no further routes. -/
def planSide (v : Vantage) (t : Topology) (side : PeeringSide) (c : Connection) :
    Lookup (Connection × RouteBatch) := do
  if c.stage.isDone side then pure (c, {})
  else
    let vpc ← Lookup.ofExcept (t.requireVpc (c.endOn side).vpc v.caller)
    let batch ← v.planRoutes t c side (vpc.routesOver c.name)
    pure ({ c with stage := c.stage.after side }, batch)

end Vantage

end Interlink
