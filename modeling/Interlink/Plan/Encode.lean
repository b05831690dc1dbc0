import Interlink.Data.Encode
import Interlink.Plan

/-!
# Plans as data

One encoder a type, with the members in the order in which they are printed.
A destination and an action are tagged by their alternative. The time at which a
plan was made is not part of it and is given when it is encoded.
-/

namespace Interlink

namespace Encode

def scope (s : Scope) : Data := struct [text "account" s.account, text "region" s.region]

def destination : Destination → Data
  | .cidr block => .tagged "cidr" (.text block)
  | .ipv6Cidr block => .tagged "ipv6_cidr" (.text block)
  | .prefixList name id => .tagged "prefix_list" (struct [text "name" name, text "id" id])

def routeAction : RouteAction → Data
  | .blackhole => .text "blackhole"
  | .forward key id =>
    .tagged "forward" (struct [text "attachment_key" key, text "attachment_id" id])

def lookupStats (s : LookupStats) : Data :=
  struct [field "local_reads" (.nat s.counts.localReads),
    field "share_lookups" (.nat s.counts.shareLookups),
    field "remote_reads" (.nat s.counts.remoteReads),
    field "provider_lookups" (.nat s.counts.providerLookups),
    field "cache_hits" (.nat s.cacheHits), field "helpers" (.nat s.helpers)]

def planMetadata (generatedAt : String) (m : PlanMetadata) : Data :=
  struct [field "scope" (scope m.scope), text "prefix" m.pathPrefix,
    text "generated_at" generatedAt, field "lookups" (lookupStats m.lookups)]

def attachmentSummary (a : AttachmentSummary) : Data :=
  struct [text "key" a.key, text "id" a.id, text "gateway_id" a.gatewayId,
    text "kind" a.kind.label, field "owner" (scope a.owner)]

def edge (e : Edge) : Data :=
  struct [text "kind" e.kind.label, text "edge_key" e.key, text "logical_id" e.logicalId,
    text "attachment_key" e.attachmentKey, text "attachment_id" e.attachmentId,
    text "route_table" e.routeTable, text "route_table_id" e.routeTableId,
    field "scope" (scope e.scope)]

def skippedEdge (e : SkippedEdge) : Data :=
  struct [text "kind" e.kind.label, text "edge_key" e.key]

def edgeBatch (b : EdgeBatch) : Data :=
  struct [list edge "records" b.edges, list skippedEdge "skipped" b.skipped]

def edgeGraph (g : EdgeGraph) : Data :=
  struct [field "associations" (edgeBatch g.associations),
    field "propagations" (edgeBatch g.propagations)]

def gatewayRoute (r : GatewayRoute) : Data :=
  struct [text "key" r.key, text "gateway" r.gateway, text "route_table" r.routeTable,
    text "route_table_id" r.routeTableId, field "destination" (destination r.destination),
    field "action" (routeAction r.action), field "scope" (scope r.scope)]

def peeringEnd (e : PeeringEnd) : Data :=
  struct [text "vpc" e.vpc, field "scope" (scope e.scope), text "account_id" e.accountId,
    field "templated" (.bool e.templated)]

def connection (c : Connection) : Data :=
  struct [text "name" c.name, text "key" c.key, field "requester" (peeringEnd c.requester),
    field "accepter" (peeringEnd c.accepter), field "cross_account" (.bool c.crossAccount),
    optional Data.text "peer_role_name" c.peerRoleName,
    optional Data.text "requester_vpc_id" c.requesterVpcId,
    optional Data.text "accepter_vpc_id" c.accepterVpcId,
    if c.tags.isEmpty then [] else field "tags" (mapData .text c.tags)]

def peeringRoute (r : PeeringRoute) : Data :=
  struct [text "key" r.key, text "peering_key" r.peeringKey, text "side" r.side.label,
    text "vpc" r.vpc, text "route_table" r.routeTable, text "route_table_id" r.routeTableId,
    field "destination" (destination r.destination), field "scope" (scope r.scope)]

def crossAccountRoute (r : CrossAccountRoute) : Data :=
  struct [text "key" r.key, text "peering_key" r.peeringKey, text "vpc" r.vpc,
    text "route_table" r.routeTable, text "route_table_id" r.routeTableId,
    field "destination" (destination r.destination), field "owner" (scope r.owner),
    text "owner_account_id" r.ownerAccountId, text "role_name" r.roleName]

def routeHandler (h : RouteHandler) : Data :=
  struct [field "scope" (scope h.scope), list .text "role_names" h.roleNames]

def publication (p : Publication) : Data :=
  struct [field "scope" (scope p.scope), text "path" p.path, text "resource_key" p.resourceKey]

def ruleAssociation (a : RuleAssociation) : Data :=
  struct [text "key" a.key, text "logical_id" a.logicalId, text "rule" a.rule,
    text "rule_id" a.ruleId, text "vpc" a.vpc, text "vpc_id" a.vpcId,
    field "scope" (scope a.scope)]

/-- A plan, made at some time, as data. -/
def plan (generatedAt : String) (p : Plan) : Data :=
  struct [field "metadata" (planMetadata generatedAt p.metadata),
    list attachmentSummary "attachments" p.attachments,
    list edge "associations" p.associations, list edge "propagations" p.propagations,
    list skippedEdge "skipped_edges" p.skippedEdges,
    list gatewayRoute "gateway_routes" p.gatewayRoutes,
    list connection "peering_connections" p.peering.connections,
    list peeringRoute "peering_routes" p.peering.routes,
    list crossAccountRoute "cross_account_routes" p.peering.crossAccountRoutes,
    optional routeHandler "cross_account_route_handler" p.peering.handler,
    list ruleAssociation "resolver_rule_associations" p.ruleAssociations,
    list publication "publications" p.peering.publications]

end Encode

end Interlink
