import Interlink.Edge
import Interlink.GatewayRoute
import Interlink.Peering.Plan
import Interlink.ResolverRuleAssociation

/-!
# The plan of a unit

A plan is everything that has to be created in one account and region: edges,
static routes, peering connections with their routes, associations of resolver
rules, and what to publish afterwards. `plan` runs the stages in their order,
the map first, because everything else reads it by key.
-/

namespace Interlink

/-- How a plan came about. -/
structure PlanMetadata where
  scope : Scope
  pathPrefix : String
  lookups : LookupStats
deriving DecidableEq, Repr

/-- An attachment that the unit resolved. -/
structure AttachmentSummary where
  key : String
  id : String
  gatewayId : String
  kind : AttachmentKind
  owner : Scope
deriving DecidableEq, Repr

/-- Everything that a unit creates. -/
structure Plan where
  metadata : PlanMetadata
  attachments : List AttachmentSummary
  associations : List Edge
  propagations : List Edge
  skippedEdges : List SkippedEdge
  gatewayRoutes : List GatewayRoute
  peering : PeeringPlan
  ruleAssociations : List RuleAssociation
deriving DecidableEq, Repr

namespace Plan

/-- The number of things to create. -/
def resourceCount (p : Plan) : Nat :=
  p.associations.length + p.propagations.length + p.gatewayRoutes.length +
    p.peering.connections.length + p.peering.routes.length +
    p.peering.crossAccountRoutes.length + p.peering.handler.toList.length +
    p.ruleAssociations.length

/-- Whether there is nothing to create. -/
def isEmpty (p : Plan) : Bool := p.resourceCount == 0

/-- The attachments of a map, in the order of their keys. -/
def summaries (m : UnitMap) : List AttachmentSummary :=
  m.attachments.entries.map fun (key, a) =>
    ⟨key, a.id, a.gatewayId, a.descriptor.kind, a.descriptor.owner⟩

/-- The plan of what the stages have come to. -/
def assemble (metadata : PlanMetadata) (m : UnitMap) (edges : EdgeGraph)
    (gatewayRoutes : List GatewayRoute) (peering : PeeringPlan)
    (ruleAssociations : List RuleAssociation) : Plan :=
  { metadata
    attachments := summaries m
    associations := edges.associations.edges
    propagations := edges.propagations.edges
    skippedEdges := edges.associations.skipped ++ edges.propagations.skipped
    gatewayRoutes
    peering
    ruleAssociations }

/-- The edges of a unit, nothing having been asked for before. -/
def edgesOf (m : UnitMap) (t : Topology) : Except PlanError EdgeGraph :=
  match (m.planGraph (.ofExternal t.network.external)).run {} with
  | .ok edges _ => .ok edges
  | .error e _ => .error e

/-- Plan the unit at a vantage point. -/
def build (v : Vantage) (t : Topology) : Lookup Plan := do
  let _ ← Lookup.ofExcept (Vantage.requireId v.accounts v.caller.account v.caller)
  let m ← UnitMap.build v t
  let edges ← Lookup.ofExcept (edgesOf m t)
  let gatewayRoutes ← Lookup.ofExcept (m.gatewayRoutes t)
  let peering ← PeeringPlan.build v t
  let ruleAssociations ← RuleAssociation.build v t
  let s ← get
  pure (assemble ⟨v.caller, v.pathPrefix, s.stats⟩ m edges gatewayRoutes peering ruleAssociations)

end Plan

namespace Topology

/-- Where the unit of a scope stands when it asks a backend. -/
def vantage (t : Topology) (scope : Scope) (backend : Backend) : Vantage :=
  { backend
    accounts := t.registry
    caller := scope
    homeRegion := t.settings.homeRegion
    pathPrefix := t.settings.pathPrefix }

/-- Plan the unit of a scope. The run is known whether a plan comes of it or
not. -/
def plan (t : Topology) (scope : Scope) (backend : Backend) :
    EStateM.Result PlanError Run Plan :=
  (Plan.build (t.vantage scope backend) t).run {}

end Topology

end Interlink
