import Interlink.Data.Decode
import Interlink.Topology

/-!
# Topologies from documents

One decoder a type. The names of members are those of the written form; the
names behind `Decode.struct` are those that a fault shows, and the order of the
fields is the one in which a list gives them.

A VPC is the one record whose decoder is not a list of fields alone. Its
placement is given by two members of which exactly one must be there. They are
typed before they are wanted, like every member of a VPC that is none of its
fields, and a fault in them is reported last and as one of the VPC itself.
-/

namespace Interlink

open Fields (field fieldD listField optionField)

namespace Decode

/-! ## Accounts -/

def account : Decoder Account :=
  struct "AccountConfig"
    (Account.mk <$> field "name" text <*> field "id" text <*>
      optionField "organizational_unit" text)

def targets : Decoder Targets :=
  struct "DeploymentTargets"
    (Targets.mk <$> listField "accounts" text <*> listField "organizational_units" text <*>
      listField "excluded_accounts" text)

/-! ## Gateways -/

def routeTarget : Decoder RouteTarget :=
  struct "GatewayRouteTarget"
    (RouteTarget.mk <$> field "type" (alternative AttachmentKind.all AttachmentKind.label) <*>
      field "name" text <*> optionField "account" text)

def staticRoute : Decoder StaticRoute :=
  struct "GatewayRouteConfig"
    (StaticRoute.mk <$> optionField "destination_cidr_block" text <*>
      optionField "destination_prefix_list" text <*> fieldD "blackhole" bool false <*>
      optionField "attachment" routeTarget)

def gatewayRouteTable : Decoder GatewayRouteTable :=
  struct "GatewayRouteTableConfig"
    (GatewayRouteTable.mk <$> field "name" text <*> listField "routes" staticRoute)

def gateway : Decoder Gateway :=
  struct "TransitGatewayConfig"
    (Gateway.mk <$> field "name" text <*> field "account" text <*> field "region" text <*>
      listField "route_tables" gatewayRouteTable)

def gatewayRef : Decoder GatewayRef :=
  struct "GatewayReference" (GatewayRef.mk <$> field "name" text <*> field "account" text)

/-! ## VPCs -/

def vpcRoute : Decoder VpcRoute :=
  struct "VpcRouteConfig"
    (VpcRoute.mk <$> field "name" text <*>
      field "type" (alternative VpcRouteType.all VpcRouteType.label) <*>
      optionField "destination" text <*> optionField "destination_prefix_list" text <*>
      optionField "ipv6_destination" text <*> optionField "target" text)

def vpcRouteTable : Decoder VpcRouteTable :=
  struct "VpcRouteTableConfig"
    (VpcRouteTable.mk <$> field "name" text <*> listField "routes" vpcRoute)

def vpcAttachment : Decoder VpcAttachment :=
  struct "TransitGatewayAttachmentConfig"
    (VpcAttachment.mk <$> field "name" text <*> field "transit_gateway" gatewayRef <*>
      listField "route_table_associations" text <*> listField "route_table_propagations" text)

/-- The placement of a VPC from what its two members say. -/
def placement (account : Option String) (targets : Option Targets) : Except Misfit Placement :=
  match account, targets with
  | some account, none => .ok (.single account)
  | none, some targets => .ok (.targets targets)
  | some account, some _ => .error (.twoPlacements account)
  | none, none => .error .noPlacement

/-- The levels of collections that a member of a VPC may have when it is typed:
four are around it. -/
def memberDepth : Nat := 124

/-- Members with typed values. -/
def typedMembers : List (String × Document) → Decoded (List (String × Document))
  | [] => .ok []
  | (k, d) :: rest => do
    match d.typed? memberDepth with
    | none => fail .unreadable
    | some d => pure ((k, d) :: (← typedMembers rest))

/-- A fault among typed members, without the way to it. -/
def unlocated {α : Type} (r : Decoded α) : Decoded α :=
  r.mapError fun e =>
    { path := []
      misfit := match e.misfit with
        | .tooLong length fields => .tooLongTyped length fields
        | misfit => misfit }

/-- The placement of a VPC from the members that are none of its fields. -/
def placementOf (f : Format) (ms : List (String × Document)) : Decoded Placement := do
  let ms ← typedMembers ms
  let chosen := ms.filter fun m => m.1 = "account" ∨ m.1 = "deployment_targets"
  let (account, targets) ← unlocated
    (struct "PlacementFields"
      (Prod.mk <$> optionField "account" text <*> optionField "deployment_targets" targets)
      f (.record (chosen.map fun m => (.text m.1, m.2))))
  (placement account targets).mapError fun misfit => ⟨[], misfit⟩

def vpc : Decoder Vpc :=
  structWith "VpcConfig"
    ((fun name region cidrs ipamPool routeTables attachments resolverRules placement =>
        ({ name, region, placement, cidrs, ipamPool, routeTables, attachments,
           resolverRules } : Vpc)) <$>
      field "name" text <*> field "region" text <*>
      listField "cidrs" text <*> optionField "ipam_pool" text <*>
      listField "route_tables" vpcRouteTable <*>
      listField "transit_gateway_attachments" vpcAttachment <*>
      listField "resolver_rules" text)
    placementOf

def vpcPeering : Decoder VpcPeering :=
  struct "VpcPeeringConfig"
    (VpcPeering.mk <$> field "name" text <*> field "vpcs" (list text) <*>
      fieldD "tags" (sortedMap text) .empty)

/-! ## Everything else -/

def prefixList : Decoder PrefixList :=
  struct "PrefixListConfig"
    (PrefixList.mk <$> field "name" text <*> field "accounts" (list text) <*>
      field "regions" (list text) <*> listField "entries" text)

def gatewayPeeringSide : Decoder GatewayPeeringSide :=
  struct "GatewayPeeringSide"
    (GatewayPeeringSide.mk <$> field "transit_gateway_name" text <*> field "account" text <*>
      field "region" text <*> listField "route_table_associations" text)

def gatewayPeering : Decoder GatewayPeering :=
  struct "TransitGatewayPeeringConfig"
    (GatewayPeering.mk <$> field "name" text <*> field "requester" gatewayPeeringSide <*>
      field "accepter" gatewayPeeringSide)

def vpnConnection : Decoder VpnConnection :=
  struct "VpnConnectionConfig"
    (VpnConnection.mk <$> field "name" text <*> field "transit_gateway" text <*>
      listField "route_table_associations" text <*> listField "route_table_propagations" text)

def customerGateway : Decoder CustomerGateway :=
  struct "CustomerGatewayConfig"
    (CustomerGateway.mk <$> field "name" text <*> field "account" text <*>
      field "region" text <*> listField "vpn_connections" vpnConnection)

def directConnectAssociation : Decoder DirectConnectAssociation :=
  struct "DirectConnectAssociationConfig"
    (DirectConnectAssociation.mk <$>
      (GatewayRef.mk <$> field "name" text <*> field "account" text) <*>
      listField "route_table_associations" text <*> listField "route_table_propagations" text)

def directConnectGateway : Decoder DirectConnectGateway :=
  struct "DirectConnectGatewayConfig"
    (DirectConnectGateway.mk <$> field "name" text <*> field "account" text <*>
      listField "transit_gateway_associations" directConnectAssociation)

def resolverRule : Decoder ResolverRule :=
  struct "ResolverRuleConfig"
    (ResolverRule.mk <$> field "name" text <*> field "account" text <*> field "region" text)

def externalEdges : Decoder ExternalEdges :=
  struct "ExternallyManagedConfig"
    (ExternalEdges.mk <$> listField "associations" text <*> listField "propagations" text)

/-! ## The whole -/

def network : Decoder Network :=
  struct "NetworkConfig"
    (Network.mk <$> listField "transit_gateways" gateway <*> listField "vpcs" vpc <*>
      listField "vpc_peering" vpcPeering <*> listField "prefix_lists" prefixList <*>
      listField "transit_gateway_peering" gatewayPeering <*>
      listField "customer_gateways" customerGateway <*>
      listField "direct_connect_gateways" directConnectGateway <*>
      listField "resolver_rules" resolverRule <*>
      fieldD "externally_managed" externalEdges {})

def settings : Decoder Settings :=
  struct "GlobalConfig"
    (Settings.mk <$> field "home_region" text <*> fieldD "prefix" text "accel")

/-- A topology from a document. -/
def topology : Decoder Topology :=
  struct "Config"
    (Topology.mk <$> field "global" settings <*> field "accounts" (list account) <*>
      fieldD "network" network {})

end Decode

end Interlink
