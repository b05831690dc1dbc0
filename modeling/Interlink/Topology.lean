import Interlink.Kind
import Interlink.SortedMap

/-!
# Topologies

A topology describes the network of an organization: its accounts, the transit
gateways and VPCs in them, what is attached and peered to what, and where the
routes lead. It is plain data as an operator wrote it. Names refer to one
another as text, and nothing here says that they refer to something; that is
`Interlink.Topology.Validation`.

Lists keep the order of the description. Where a name is looked up, the first
entry of that name answers.
-/

namespace Interlink

/-! ## Accounts -/

/-- A member account of the organization. -/
structure Account where
  name : String
  id : String
  organizationalUnit : Option String
deriving DecidableEq, Repr, Inhabited

/-- A choice of accounts for something that is deployed several times. -/
structure Targets where
  accounts : List String := []
  organizationalUnits : List String := []
  excludedAccounts : List String := []
deriving DecidableEq, Repr, Inhabited

/-- Where a VPC is deployed: to one account, or once to each account of a
choice. -/
inductive Placement
  | single (account : String)
  | targets (targets : Targets)
deriving DecidableEq, Repr, Inhabited

/-- Whether a VPC may be deployed to several accounts. -/
def Placement.isTemplated : Placement → Bool
  | .single _ => false
  | .targets _ => true

/-! ## Gateways -/

/-- What a static route of a gateway leads to: the attachment of a child. The
account may be left out where it is clear. -/
structure RouteTarget where
  kind : AttachmentKind
  name : String
  account : Option String
deriving DecidableEq, Repr, Inhabited

/-- A static route in a gateway's route table. -/
structure StaticRoute where
  destinationCidrBlock : Option String
  destinationPrefixList : Option String
  blackhole : Bool := false
  attachment : Option RouteTarget
deriving DecidableEq, Repr, Inhabited

/-- A route table of a gateway. -/
structure GatewayRouteTable where
  name : String
  routes : List StaticRoute := []
deriving DecidableEq, Repr, Inhabited

/-- A transit gateway. -/
structure Gateway where
  name : String
  account : String
  region : String
  routeTables : List GatewayRouteTable := []
deriving DecidableEq, Repr, Inhabited

/-- Whether a gateway has a route table of a name. -/
def Gateway.hasRouteTable (g : Gateway) (table : String) : Bool :=
  g.routeTables.any (·.name == table)

/-- A gateway named from outside: its name and its account. -/
structure GatewayRef where
  name : String
  account : String
deriving DecidableEq, Repr, Inhabited

/-! ## VPCs -/

/-- What sort of target a VPC's route has. -/
inductive VpcRouteType
  | vpcPeering
  | transitGateway
  | internetGateway
  | natGateway
  | local
deriving DecidableEq, Repr, Inhabited

namespace VpcRouteType

/-- Every type, in the order in which choices are listed to a user. -/
def all : List VpcRouteType :=
  [.vpcPeering, .transitGateway, .internetGateway, .natGateway, .local]

/-- The spelling of a type. -/
def label : VpcRouteType → String
  | .vpcPeering => "vpc_peering"
  | .transitGateway => "transit_gateway"
  | .internetGateway => "internet_gateway"
  | .natGateway => "nat_gateway"
  | .local => "local"

theorem mem_all (t : VpcRouteType) : t ∈ all := by cases t <;> decide

theorem label_injective {a b : VpcRouteType} (h : a.label = b.label) : a = b := by
  cases a <;> cases b <;> simp_all [label]

end VpcRouteType

/-- A route in a VPC's route table. -/
structure VpcRoute where
  name : String
  type : VpcRouteType
  destination : Option String
  destinationPrefixList : Option String
  ipv6Destination : Option String
  target : Option String
deriving DecidableEq, Repr, Inhabited

/-- How the destination of a VPC's route is obtained. -/
inductive DestinationSpec
  | cidr (block : String)
  | ipv6Cidr (block : String)
  | prefixList (name : String)
  /-- Nothing is given: the primary block of the VPC on the other side. -/
  | peerPrimaryCidr
deriving DecidableEq, Repr, Inhabited

namespace VpcRoute

/-- What the route says of its destination. Of several destinations a written
block counts before a prefix list, and that before a version 6 block. -/
def destinationSpec (r : VpcRoute) : DestinationSpec :=
  match r.destination, r.destinationPrefixList, r.ipv6Destination with
  | some block, _, _ => .cidr block
  | none, some name, _ => .prefixList name
  | none, none, some block => .ipv6Cidr block
  | none, none, none => .peerPrimaryCidr

/-- Whether the route leads over a peering connection of a name. -/
def targetsPeering (r : VpcRoute) (peering : String) : Bool :=
  r.type == .vpcPeering && r.target == some peering

end VpcRoute

/-- A route table of a VPC. -/
structure VpcRouteTable where
  name : String
  routes : List VpcRoute := []
deriving DecidableEq, Repr, Inhabited

/-- The attachment of a VPC to a gateway, with the gateway's route tables that
it is associated with and those that it announces itself to. -/
structure VpcAttachment where
  name : String
  gateway : GatewayRef
  associations : List String := []
  propagations : List String := []
deriving DecidableEq, Repr, Inhabited

/-- A VPC. Its first block is its primary one. -/
structure Vpc where
  name : String
  region : String
  placement : Placement
  cidrs : List String := []
  ipamPool : Option String
  routeTables : List VpcRouteTable := []
  attachments : List VpcAttachment := []
  resolverRules : List String := []
deriving DecidableEq, Repr, Inhabited

/-- A peering of two VPCs: the first requests, the second accepts. -/
structure VpcPeering where
  name : String
  vpcs : List String
  tags : SortedMap String := .empty
deriving DecidableEq, Repr, Inhabited

/-! ## Everything else that can be connected -/

/-- A list of blocks under one name, deployed to accounts and regions. -/
structure PrefixList where
  name : String
  accounts : List String
  regions : List String
  entries : List String := []
deriving DecidableEq, Repr, Inhabited

/-- Whether a prefix list exists in an account and region. -/
def PrefixList.isDeployedTo (l : PrefixList) (account region : String) : Bool :=
  l.accounts.contains account && l.regions.contains region

/-- One side of a peering of two gateways. -/
structure GatewayPeeringSide where
  gateway : String
  account : String
  region : String
  associations : List String := []
deriving DecidableEq, Repr, Inhabited

/-- A peering of two gateways. -/
structure GatewayPeering where
  name : String
  requester : GatewayPeeringSide
  accepter : GatewayPeeringSide
deriving DecidableEq, Repr, Inhabited

/-- Both sides, the requester first. -/
def GatewayPeering.sides (p : GatewayPeering) : List GatewayPeeringSide :=
  [p.requester, p.accepter]

/-- A VPN connection to a gateway of the same account. -/
structure VpnConnection where
  name : String
  gateway : String
  associations : List String := []
  propagations : List String := []
deriving DecidableEq, Repr, Inhabited

/-- A customer gateway with its VPN connections. -/
structure CustomerGateway where
  name : String
  account : String
  region : String
  vpnConnections : List VpnConnection := []
deriving DecidableEq, Repr, Inhabited

/-- The association of a Direct Connect gateway with a transit gateway. -/
structure DirectConnectAssociation where
  gateway : GatewayRef
  associations : List String := []
  propagations : List String := []
deriving DecidableEq, Repr, Inhabited

/-- A Direct Connect gateway. -/
structure DirectConnectGateway where
  name : String
  account : String
  associations : List DirectConnectAssociation := []
deriving DecidableEq, Repr, Inhabited

/-- A rule for name resolution, shared by the account that owns it. -/
structure ResolverRule where
  name : String
  account : String
  region : String
deriving DecidableEq, Repr, Inhabited

/-- The keys of edges that somebody else creates. -/
structure ExternalEdges where
  associations : List String := []
  propagations : List String := []
deriving DecidableEq, Repr, Inhabited

/-! ## The whole -/

/-- The network of an organization. -/
structure Network where
  gateways : List Gateway := []
  vpcs : List Vpc := []
  vpcPeerings : List VpcPeering := []
  prefixLists : List PrefixList := []
  gatewayPeerings : List GatewayPeering := []
  customerGateways : List CustomerGateway := []
  directConnectGateways : List DirectConnectGateway := []
  resolverRules : List ResolverRule := []
  external : ExternalEdges := {}
deriving DecidableEq, Repr, Inhabited

/-- What all units of an installation share: the region that deployments run
from, and the first part of every path and role name. -/
structure Settings where
  homeRegion : String
  pathPrefix : String := "accel"
deriving DecidableEq, Repr, Inhabited

/-- A description of the network of an organization. -/
structure Topology where
  settings : Settings
  accounts : List Account
  network : Network := {}
deriving DecidableEq, Repr, Inhabited

namespace Topology

/-- The gateway of a name in an account. -/
def gateway? (t : Topology) (name account : String) : Option Gateway :=
  t.network.gateways.find? fun g => g.name == name && g.account == account

/-- The VPC of a name. -/
def vpc? (t : Topology) (name : String) : Option Vpc :=
  t.network.vpcs.find? (·.name == name)

/-- The prefix list of a name. -/
def prefixList? (t : Topology) (name : String) : Option PrefixList :=
  t.network.prefixLists.find? (·.name == name)

/-- The resolver rule of a name. -/
def resolverRule? (t : Topology) (name : String) : Option ResolverRule :=
  t.network.resolverRules.find? (·.name == name)

end Topology

end Interlink
