import Interlink.Attachment
import Interlink.Role

/-!
# Peering connections

A peering of two VPCs becomes one connection for each pair of an account of the
first and an account of the second. The unit in the requester's scope plans a
connection.

Routes are planned in two passes, one a side, in either order. The stage of a
connection says which of them are done.
-/

namespace Interlink

/-- The two sides of a connection. -/
inductive PeeringSide
  | requester
  | accepter
deriving DecidableEq, Repr, Inhabited

/-- The spelling of a side. -/
def PeeringSide.label : PeeringSide → String
  | .requester => "requester"
  | .accepter => "accepter"

/-- How far a connection is planned. -/
inductive PeeringStage
  | unresolved
  | classified
  | requesterRouted
  | accepterRouted
  | routed
deriving DecidableEq, Repr, Inhabited

namespace PeeringStage

/-- Whether the routes of a side are planned. -/
def isDone : PeeringStage → PeeringSide → Bool
  | .requesterRouted, .requester => true
  | .accepterRouted, .accepter => true
  | .routed, _ => true
  | _, _ => false

/-- The stage when the routes of a side have been planned. -/
def after : PeeringStage → PeeringSide → PeeringStage
  | .classified, .requester => .requesterRouted
  | .accepterRouted, .requester => .routed
  | .classified, .accepter => .accepterRouted
  | .requesterRouted, .accepter => .routed
  | stage, _ => stage

/-- The spelling of a stage. -/
def label : PeeringStage → String
  | .unresolved => "Unresolved"
  | .classified => "CrossAccountClassified"
  | .requesterRouted => "RequesterRouted"
  | .accepterRouted => "AccepterRouted"
  | .routed => "Routed"

end PeeringStage

/-- A VPC of a connection in one of its accounts. -/
structure PeeringEnd where
  vpc : String
  scope : Scope
  accountId : String
  templated : Bool
deriving DecidableEq, Repr, Inhabited

/-- The account id that tells an end from the other ends of its VPC. -/
def PeeringEnd.distinction (e : PeeringEnd) : Option String :=
  if e.templated then some e.accountId else none

/-- A connection of two VPCs. -/
structure Connection where
  /-- The name of the peering. -/
  name : String
  key : String
  requester : PeeringEnd
  accepter : PeeringEnd
  /-- Whether the peering spans accounts or regions. -/
  crossAccount : Bool
  /-- The role under which the request is accepted in another account. -/
  peerRoleName : Option String
  requesterVpcId : Option String := none
  accepterVpcId : Option String := none
  tags : SortedMap String
  stage : PeeringStage
deriving DecidableEq, Repr, Inhabited

namespace Connection

/-- The end on a side. -/
def endOn (c : Connection) : PeeringSide → PeeringEnd
  | .requester => c.requester
  | .accepter => c.accepter

/-- The end opposite a side. -/
def endOpposite (c : Connection) : PeeringSide → PeeringEnd
  | .requester => c.accepter
  | .accepter => c.requester

end Connection

/-! ## Classification -/

namespace Registry

/-- Whether two lists hold the same names. -/
def sameNames (a b : List String) : Bool := a.all b.contains && b.all a.contains

/-- Whether a peering of two VPCs spans accounts or regions. VPCs of several
accounts are compared by the accounts that they are deployed to. -/
def spansAccounts (accounts : Registry) (requester accepter : Vpc) : Bool :=
  if requester.region ≠ accepter.region then true
  else
    match requester.placement, accepter.placement with
    | .single a, .single b => a != b
    | _, _ => !sameNames (accounts.vpcAccounts requester) (accounts.vpcAccounts accepter)

end Registry

/-! ## Expansion -/

namespace Topology

/-- A VPC that a peering, seen from a scope, needs to be defined. -/
def requireVpc (t : Topology) (name : String) (scope : Scope) : Except PlanError Vpc :=
  match t.vpc? name with
  | some v => .ok v
  | none => .error (.misconfigured (.undefinedVpc name) scope)

/-- A VPC in one of its accounts. -/
def peeringEnd (accounts : Registry) (scope : Scope) (v : Vpc) (account : String) :
    Except PlanError PeeringEnd :=
  match accounts.accountId? account with
  | some id => .ok ⟨v.name, ⟨account, v.region⟩, id, v.placement.isTemplated⟩
  | none => .error (.misconfigured (.unknownAccount account) scope)

/-- The connection of two ends, classified. -/
def connection (p : VpcPeering) (pathPrefix : String) (crossAccount : Bool)
    (requester accepter : PeeringEnd) : Connection :=
  { name := p.name
    key := Key.peering p.name requester.distinction accepter.distinction
    requester
    accepter
    crossAccount
    peerRoleName :=
      if requester.scope.account = accepter.scope.account then none
      else some (RolePurpose.peeringRoutes.roleName pathPrefix accepter.scope.region)
    tags := p.tags
    stage := .classified }

/-- The connections of two VPCs, each on its own. -/
def pairResults (accounts : Registry) (scope : Scope) (pathPrefix : String) (p : VpcPeering)
    (requester accepter : Vpc) : List (Except PlanError Connection) :=
  let crossAccount := accounts.spansAccounts requester accepter
  (accounts.vpcAccounts requester).flatMap fun a =>
    match peeringEnd accounts scope requester a with
    | .error e => [.error e]
    | .ok a => (accounts.vpcAccounts accepter).map fun b =>
      (peeringEnd accounts scope accepter b).map (connection p pathPrefix crossAccount a)

/-- The connections of a peering, each on its own. -/
def peeringResults (t : Topology) (accounts : Registry) (scope : Scope) (pathPrefix : String)
    (p : VpcPeering) : List (Except PlanError Connection) :=
  match p.vpcs with
  | [a, b] =>
    match t.requireVpc a scope, t.requireVpc b scope with
    | .ok a, .ok b => pairResults accounts scope pathPrefix p a b
    | .error e, _ => [.error e]
    | .ok _, .error e => [.error e]
  | _ => [.error (.misconfigured (.notTwoVpcs p.name) scope)]

/-- The connections of all peerings, as seen from a scope. -/
def connections (t : Topology) (accounts : Registry) (scope : Scope) (pathPrefix : String) :
    Except PlanError (List Connection) :=
  collectOk (t.network.vpcPeerings.flatMap (t.peeringResults accounts scope pathPrefix))

/-- The connections that the unit of a scope requests. -/
def connectionsOf (t : Topology) (accounts : Registry) (scope : Scope) (pathPrefix : String) :
    Except PlanError (List Connection) :=
  (t.connections accounts scope pathPrefix).map fun cs =>
    cs.filter fun c => c.requester.scope == scope

end Topology

end Interlink
