import Interlink.Destination
import Interlink.UnitMap

/-!
# Static routes of gateways

The unit that owns a gateway writes its route tables. A static route drops what
it matches, or forwards it to an attachment that the unit has in its map.
Everything it needs is in the map already, so nothing is asked here.
-/

namespace Interlink

/-- What a route does with what it matches. -/
inductive RouteAction
  | blackhole
  | forward (attachmentKey attachmentId : String)
deriving DecidableEq, Repr, Inhabited

/-- A static route to create. -/
structure GatewayRoute where
  key : String
  gateway : String
  routeTable : String
  routeTableId : String
  destination : Destination
  action : RouteAction
  scope : Scope
deriving DecidableEq, Repr, Inhabited

namespace UnitMap

/-- The destination of a static route. A prefix list must be deployed to the
unit. -/
def routeDestination (m : UnitMap) (r : StaticRoute) : Except PlanError Destination :=
  match r.destinationCidrBlock with
  | some block => .ok (.cidr block)
  | none =>
    let name := r.destinationPrefixList.getD ""
    match m.prefixLists.get? name with
    | some id => .ok (.prefixList name id)
    | none => .error (.misconfigured (.prefixListNotAtGateway name) m.scope)

/-- Whether an attachment is what a static route of a gateway leads to. -/
def isTarget (g : Gateway) (target : RouteTarget) (a : Attachment) : Bool :=
  a.gateway == g.name && a.gatewayAccount == g.account && a.kind == target.kind &&
    a.child == target.name && target.account.all (· == a.owner.account)

/-- The attachments that a static route may lead to. -/
def targets (m : UnitMap) (g : Gateway) (target : RouteTarget) :
    List (String × ResolvedAttachment) :=
  m.attachments.entries.filter fun e => isTarget g target e.2.descriptor

/-- What a static route does. The attachment it leads to must be one. -/
def routeAction (m : UnitMap) (g : Gateway) (r : StaticRoute) : Except PlanError RouteAction :=
  match r.attachment with
  | none => .ok .blackhole
  | some target =>
    match m.targets g target with
    | [] => .error (.misconfigured (.noRouteTarget target.kind target.name g.name) m.scope)
    | [(key, a)] => .ok (.forward key a.id)
    | _ => .error (.misconfigured (.severalRouteTargets target.kind target.name) m.scope)

/-- A static route. -/
def gatewayRoute (m : UnitMap) (g : Gateway) (table tableId : String) (r : StaticRoute) :
    Except PlanError GatewayRoute := do
  let destination ← m.routeDestination r
  let action ← m.routeAction g r
  pure
    { key := Key.gatewayRoute g.name table destination.label
      gateway := g.name
      routeTable := table
      routeTableId := tableId
      destination
      action
      scope := m.scope }

/-- The static routes of a route table. -/
def tableRoutes (m : UnitMap) (g : Gateway) (table : GatewayRouteTable) :
    Except PlanError (List GatewayRoute) :=
  match m.routeTableId? g.region g.name table.name with
  | none => .error (.notFound (Key.routeTable g.name table.name) m.scope)
  | some id => collectOk (table.routes.map (m.gatewayRoute g table.name id))

/-- The static routes of the unit's gateways, in the order of the
description. -/
def gatewayRoutes (m : UnitMap) (t : Topology) : Except PlanError (List GatewayRoute) :=
  (collectOk ((ownGateways t m.scope).flatMap fun g => g.routeTables.map (m.tableRoutes g))).map
    List.flatten

end UnitMap

end Interlink
