import Interlink.Data.Encode
import Interlink.Topology

/-!
# Topologies as data

One encoder a type, with the members in the order in which they are described.
Defaults are written out and empty lists are there; only what has no value is
left out. The placement of a VPC stands among the VPC's own members.
-/

namespace Interlink

namespace Encode

def account (a : Account) : Data :=
  struct [text "name" a.name, text "id" a.id,
    optional Data.text "organizational_unit" a.organizationalUnit]

def targets (t : Targets) : Data :=
  struct [list .text "accounts" t.accounts, list .text "organizational_units" t.organizationalUnits,
    list .text "excluded_accounts" t.excludedAccounts]

def routeTarget (t : RouteTarget) : Data :=
  struct [text "type" t.kind.label, text "name" t.name, optional Data.text "account" t.account]

def staticRoute (r : StaticRoute) : Data :=
  struct [optional Data.text "destination_cidr_block" r.destinationCidrBlock,
    optional Data.text "destination_prefix_list" r.destinationPrefixList,
    field "blackhole" (.bool r.blackhole), optional routeTarget "attachment" r.attachment]

def gatewayRouteTable (t : GatewayRouteTable) : Data :=
  struct [text "name" t.name, list staticRoute "routes" t.routes]

def gateway (g : Gateway) : Data :=
  struct [text "name" g.name, text "account" g.account, text "region" g.region,
    list gatewayRouteTable "route_tables" g.routeTables]

def gatewayRef (g : GatewayRef) : Data :=
  struct [text "name" g.name, text "account" g.account]

def vpcRoute (r : VpcRoute) : Data :=
  struct [text "name" r.name, text "type" r.type.label,
    optional Data.text "destination" r.destination,
    optional Data.text "destination_prefix_list" r.destinationPrefixList,
    optional Data.text "ipv6_destination" r.ipv6Destination,
    optional Data.text "target" r.target]

def vpcRouteTable (t : VpcRouteTable) : Data :=
  struct [text "name" t.name, list vpcRoute "routes" t.routes]

def vpcAttachment (a : VpcAttachment) : Data :=
  struct [text "name" a.name, field "transit_gateway" (gatewayRef a.gateway),
    list .text "route_table_associations" a.associations,
    list .text "route_table_propagations" a.propagations]

def placement : Placement → Members
  | .single account => text "account" account
  | .targets t => field "deployment_targets" (targets t)

def vpc (v : Vpc) : Data :=
  struct [text "name" v.name, text "region" v.region, placement v.placement,
    list .text "cidrs" v.cidrs, optional Data.text "ipam_pool" v.ipamPool,
    list vpcRouteTable "route_tables" v.routeTables,
    list vpcAttachment "transit_gateway_attachments" v.attachments,
    list .text "resolver_rules" v.resolverRules]

def vpcPeering (p : VpcPeering) : Data :=
  struct [text "name" p.name, list .text "vpcs" p.vpcs, field "tags" (mapData .text p.tags)]

def prefixList (l : PrefixList) : Data :=
  struct [text "name" l.name, list .text "accounts" l.accounts, list .text "regions" l.regions,
    list .text "entries" l.entries]

def gatewayPeeringSide (s : GatewayPeeringSide) : Data :=
  struct [text "transit_gateway_name" s.gateway, text "account" s.account,
    text "region" s.region, list .text "route_table_associations" s.associations]

def gatewayPeering (p : GatewayPeering) : Data :=
  struct [text "name" p.name, field "requester" (gatewayPeeringSide p.requester),
    field "accepter" (gatewayPeeringSide p.accepter)]

def vpnConnection (v : VpnConnection) : Data :=
  struct [text "name" v.name, text "transit_gateway" v.gateway,
    list .text "route_table_associations" v.associations,
    list .text "route_table_propagations" v.propagations]

def customerGateway (g : CustomerGateway) : Data :=
  struct [text "name" g.name, text "account" g.account, text "region" g.region,
    list vpnConnection "vpn_connections" g.vpnConnections]

def directConnectAssociation (a : DirectConnectAssociation) : Data :=
  struct [text "name" a.gateway.name, text "account" a.gateway.account,
    list .text "route_table_associations" a.associations,
    list .text "route_table_propagations" a.propagations]

def directConnectGateway (g : DirectConnectGateway) : Data :=
  struct [text "name" g.name, text "account" g.account,
    list directConnectAssociation "transit_gateway_associations" g.associations]

def resolverRule (r : ResolverRule) : Data :=
  struct [text "name" r.name, text "account" r.account, text "region" r.region]

def externalEdges (e : ExternalEdges) : Data :=
  struct [list .text "associations" e.associations, list .text "propagations" e.propagations]

def network (n : Network) : Data :=
  struct [list gateway "transit_gateways" n.gateways, list vpc "vpcs" n.vpcs,
    list vpcPeering "vpc_peering" n.vpcPeerings, list prefixList "prefix_lists" n.prefixLists,
    list gatewayPeering "transit_gateway_peering" n.gatewayPeerings,
    list customerGateway "customer_gateways" n.customerGateways,
    list directConnectGateway "direct_connect_gateways" n.directConnectGateways,
    list resolverRule "resolver_rules" n.resolverRules,
    field "externally_managed" (externalEdges n.external)]

def settings (s : Settings) : Data :=
  struct [text "home_region" s.homeRegion, text "prefix" s.pathPrefix]

/-- A topology as data. -/
def topology (t : Topology) : Data :=
  struct [field "global" (settings t.settings), list account "accounts" t.accounts,
    field "network" (network t.network)]

end Encode

end Interlink
