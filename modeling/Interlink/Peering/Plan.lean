import Interlink.Peering.Route

/-!
# What peering adds to a plan

The connections that a unit requests, with the ids of both VPCs; the routes of
the requesters, then those of the accepters; what is to be published when the
connections exist; and, if some route is written elsewhere, the handler that
does so.
-/

namespace Interlink

/-- The operation behind all routes that are written in other scopes. -/
structure RouteHandler where
  scope : Scope
  roleNames : List String
deriving DecidableEq, Repr, Inhabited

/-- A value that the unit publishes once a resource exists. -/
structure Publication where
  scope : Scope
  path : String
  resourceKey : String
deriving DecidableEq, Repr, Inhabited

/-- What peering adds to a plan. -/
structure PeeringPlan where
  connections : List Connection := []
  routes : List PeeringRoute := []
  crossAccountRoutes : List CrossAccountRoute := []
  handler : Option RouteHandler := none
  publications : List Publication := []
deriving DecidableEq, Repr, Inhabited

namespace PeeringPlan

/-- The connection with the ids of its VPCs. -/
def resolveVpcs (v : Vantage) (c : Connection) : Lookup Connection := do
  let requester ← v.learn (.vpc c.requester.vpc) c.requester.scope
  let accepter ← v.learn (.vpc c.accepter.vpc) c.accepter.scope
  pure { c with requesterVpcId := some requester, accepterVpcId := some accepter }

/-- A step for every connection in turn. -/
def forEach {α : Type} (step : Connection → Lookup α) : List Connection → Lookup (List α)
  | [] => pure []
  | c :: rest => do
    let a ← step c
    let as ← forEach step rest
    pure (a :: as)

/-- The routes of a side of all connections. -/
def planSides (v : Vantage) (t : Topology) (side : PeeringSide) (cs : List Connection) :
    Lookup (List Connection × RouteBatch) := do
  let results ← forEach (v.planSide t side) cs
  pure (results.map (·.1), results.foldl (fun batch r => batch ++ r.2) {})

/-- What is published of a connection: its id, in the requester's scope and, if
that is another one, in the accepter's. -/
def publicationsOf (pathPrefix : String) (c : Connection) : List Publication :=
  let path := (Published.vpcPeering c.key).path pathPrefix
  ⟨c.requester.scope, path, c.key⟩ ::
    (if c.accepter.scope = c.requester.scope then [] else [⟨c.accepter.scope, path, c.key⟩])

/-- The handler for some routes, if there are any. -/
def handlerFor (scope : Scope) (routes : List CrossAccountRoute) : Option RouteHandler :=
  if routes.isEmpty then none
  else some ⟨scope, (NameSet.ofNames (routes.map (·.roleName))).keys⟩

/-- Plan the connections that the unit requests. -/
def build (v : Vantage) (t : Topology) : Lookup PeeringPlan := do
  let cs ← Lookup.ofExcept (t.connectionsOf v.accounts v.caller v.pathPrefix)
  let cs ← forEach (resolveVpcs v) cs
  let (cs, requested) ← planSides v t .requester cs
  let (cs, accepted) ← planSides v t .accepter cs
  let batch := requested ++ accepted
  pure
    { connections := cs
      routes := batch.routes
      crossAccountRoutes := batch.crossAccountRoutes
      handler := handlerFor v.caller batch.crossAccountRoutes
      publications := cs.flatMap (publicationsOf v.pathPrefix) }

end PeeringPlan

end Interlink
