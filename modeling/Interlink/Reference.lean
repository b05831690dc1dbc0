import Interlink.Key
import Interlink.Kind

/-!
# References to published values

Units exchange identifiers through a store of published values. What can be
published is a closed set, `Published`; each member has a kind, a display name
and a path in the store. The path is kept as a list of segments for as long as
anyone reasons about it, and joined by slashes only when it leaves for the
store: two members publish under one list of segments only if they are the
same member (`segments_injective`), and that is a fact about lists, with no
text to take apart.
-/

namespace Interlink

/-- A named value in the store of published values. -/
structure Reference where
  kind : ResourceKind
  name : String
  path : String
deriving DecidableEq, Repr, Inhabited

/-- The reference as an operator reads it. -/
def Reference.render (r : Reference) : String :=
  r.kind.label ++ " '" ++ r.name ++ "' (" ++ r.path ++ ")"

/-- Everything that a unit can publish or look up by path. -/
inductive Published
  | transitGateway (gateway : String)
  | transitGatewayRouteTable (gateway table : String)
  | attachment (kind : AttachmentKind) (child name : String)
  | vpc (vpc : String)
  | vpcRouteTable (vpc table : String)
  | vpcPrimaryCidr (vpc : String)
  | prefixList (name : String)
  | resolverRule (name : String)
  | vpcPeering (key : String)
deriving DecidableEq, Repr, Inhabited

namespace Published

/-- The kind of the value. -/
def kind : Published → ResourceKind
  | .transitGateway _ => .transitGateway
  | .transitGatewayRouteTable .. => .transitGatewayRouteTable
  | .attachment .. => .transitGatewayAttachment
  | .vpc _ => .vpc
  | .vpcRouteTable .. => .vpcRouteTable
  | .vpcPrimaryCidr _ => .vpcCidr
  | .prefixList _ => .prefixList
  | .resolverRule _ => .resolverRule
  | .vpcPeering _ => .vpcPeering

/-- The display name of the value. -/
def name : Published → String
  | .transitGateway gateway => gateway
  | .transitGatewayRouteTable gateway table => Key.routeTable gateway table
  | .attachment _ child name => child ++ "/" ++ name
  | .vpc name => name
  | .vpcRouteTable name table => name ++ "/" ++ table
  | .vpcPrimaryCidr name => name
  | .prefixList name => name
  | .resolverRule name => name
  | .vpcPeering key => key

/-- The path below the network section of the store, segment by segment. -/
def segments : Published → List String
  | .transitGateway gateway => ["transitGateways", gateway, "id"]
  | .transitGatewayRouteTable gateway table =>
    ["transitGateways", gateway, "routeTables", table, "id"]
  | .attachment kind child name =>
    [kind.pathSegment, child, "transitGatewayAttachment", name, "id"]
  | .vpc name => ["vpc", name, "id"]
  | .vpcRouteTable name table => ["vpc", name, "routeTables", table, "id"]
  | .vpcPrimaryCidr name => ["vpc", name, "cidr", "primary"]
  | .prefixList name => ["prefixList", name, "id"]
  | .resolverRule name => ["route53Resolver", "rule", name, "id"]
  | .vpcPeering key => ["vpcPeering", key, "id"]

/-- A path below the network section of the store, as text. -/
def networkPath (pathPrefix : String) (segments : List String) : String :=
  segments.foldl (fun path segment => path ++ "/" ++ segment) ("/" ++ pathPrefix ++ "/network")

/-- The path of a value, as text. -/
def path (p : Published) (pathPrefix : String) : String := networkPath pathPrefix p.segments

/-- The reference to a value in an installation with the given prefix. -/
def reference (p : Published) (pathPrefix : String) : Reference :=
  ⟨p.kind, p.name, p.path pathPrefix⟩

/-- Different values publish under different segments. -/
theorem segments_injective {a b : Published} (h : a.segments = b.segments) : a = b := by
  cases a <;> cases b <;> simp [segments] at h ⊢ <;> try exact h
  exact ⟨AttachmentKind.pathSegment_injective h.1, h.2⟩

end Published

end Interlink
