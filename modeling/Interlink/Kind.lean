/-!
# Kinds of resources and attachments

Both kinds are closed sets with a fixed spelling for every member. The
spelling is the name under which a member is configured, stored and printed;
`label_injective` says that it identifies the member, which is what lets a
reader of text recover the kind.
-/

namespace Interlink

/-- What sort of value an identifier stands for. -/
inductive ResourceKind
  | transitGateway
  | transitGatewayRouteTable
  | transitGatewayAttachment
  | vpc
  | vpcRouteTable
  | vpcCidr
  | prefixList
  | resolverRule
  | vpcPeering
deriving DecidableEq, Repr, Inhabited

namespace ResourceKind

/-- Every kind, in the order in which choices are listed to a user. -/
def all : List ResourceKind :=
  [.transitGateway, .transitGatewayRouteTable, .transitGatewayAttachment, .vpc,
    .vpcRouteTable, .vpcCidr, .prefixList, .resolverRule, .vpcPeering]

/-- The spelling of a kind. -/
def label : ResourceKind → String
  | .transitGateway => "transit_gateway"
  | .transitGatewayRouteTable => "transit_gateway_route_table"
  | .transitGatewayAttachment => "transit_gateway_attachment"
  | .vpc => "vpc"
  | .vpcRouteTable => "vpc_route_table"
  | .vpcCidr => "vpc_cidr"
  | .prefixList => "prefix_list"
  | .resolverRule => "resolver_rule"
  | .vpcPeering => "vpc_peering"

/-- Whether an owner shares such a resource with other accounts of its region.
A shared resource is found through the share, without assuming an identity. -/
def shareable : ResourceKind → Bool
  | .transitGateway | .resolverRule => true
  | _ => false

theorem mem_all (k : ResourceKind) : k ∈ all := by cases k <;> decide

theorem label_injective {a b : ResourceKind} (h : a.label = b.label) : a = b := by
  cases a <;> cases b <;> simp_all [label]

end ResourceKind

/-- The sort of child that an attachment binds to a gateway. -/
inductive AttachmentKind
  | vpc
  | vpn
  | directConnect
  | peering
deriving DecidableEq, Repr, Inhabited

namespace AttachmentKind

/-- Every kind, in the order in which choices are listed to a user. -/
def all : List AttachmentKind := [.vpc, .vpn, .directConnect, .peering]

/-- The spelling of a kind. -/
def label : AttachmentKind → String
  | .vpc => "vpc"
  | .vpn => "vpn"
  | .directConnect => "direct_connect"
  | .peering => "peering"

/-- The path segment under which children of this kind publish. -/
def pathSegment : AttachmentKind → String
  | .vpc => "vpc"
  | .vpn => "vpnConnection"
  | .directConnect => "directConnectGateway"
  | .peering => "transitGatewayPeering"

theorem mem_all (k : AttachmentKind) : k ∈ all := by cases k <;> decide

theorem label_injective {a b : AttachmentKind} (h : a.label = b.label) : a = b := by
  cases a <;> cases b <;> simp_all [label]

theorem pathSegment_injective {a b : AttachmentKind} (h : a.pathSegment = b.pathSegment) :
    a = b := by
  cases a <;> cases b <;> simp_all [pathSegment]

end AttachmentKind

end Interlink
