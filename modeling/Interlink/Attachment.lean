import Interlink.PlanError
import Interlink.Registry

/-!
# Attachments as they are described

Four sorts of children attach to a gateway: VPCs, VPN connections, Direct
Connect gateways and peerings of gateways. The topology describes each in its
own way; `Topology.attachments` brings them to one form, a list in the order of
the description. A VPC that is deployed to several accounts yields one
attachment an account.

Every attachment is worked out on its own, and is an error or a value; the list
is the first error, if there is one.
-/

namespace Interlink

/-- The attachment of a child to a gateway. -/
structure Attachment where
  kind : AttachmentKind
  /-- The name of the child. -/
  child : String
  name : String
  gateway : String
  gatewayAccount : String
  /-- The region of the gateway. -/
  region : String
  /-- The scope that owns the child, and with it the attachment. -/
  owner : Scope
  /-- Whether the child may be deployed to several accounts. -/
  templated : Bool
  /-- The route tables that it is associated with. -/
  associations : List String
  /-- The route tables that it announces itself to. -/
  propagations : List String
deriving DecidableEq, Repr, Inhabited

namespace Attachment

/-- The key of the attachment in a unit's map. -/
def key (a : Attachment) : String := Key.attachment a.gateway a.owner.account a.child

/-- The scope that owns the gateway. -/
def gatewayScope (a : Attachment) : Scope := ⟨a.gatewayAccount, a.region⟩

end Attachment

/-- The values of a list of results, or its first error. -/
def collectOk {ε α : Type} : List (Except ε α) → Except ε (List α)
  | [] => .ok []
  | .ok a :: rest => (collectOk rest).map (a :: ·)
  | .error e :: _ => .error e

namespace Topology

/-- A gateway that an attachment, seen from a scope, needs to be defined. -/
def requireGateway (t : Topology) (name account : String) (scope : Scope) :
    Except PlanError Gateway :=
  match t.gateway? name account with
  | some g => .ok g
  | none => .error (.misconfigured (.undefinedGateway name account) scope)

/-- The attachment of a VPC deployed to an account. -/
def vpcAttachment (t : Topology) (scope : Scope) (v : Vpc) (account : String)
    (a : VpcAttachment) : Except PlanError Attachment := do
  let g ← t.requireGateway a.gateway.name a.gateway.account scope
  if g.region = v.region then
    pure
      { kind := .vpc, child := v.name, name := a.name, gateway := g.name
        gatewayAccount := g.account, region := g.region, owner := ⟨account, v.region⟩
        templated := v.placement.isTemplated, associations := a.associations
        propagations := a.propagations }
  else
    throw (.misconfigured (.gatewayInOtherRegion g.name g.account v.name v.region g.region) scope)

/-- The attachment of a VPN connection, owned by its customer gateway. -/
def vpnAttachment (t : Topology) (scope : Scope) (c : CustomerGateway) (v : VpnConnection) :
    Except PlanError Attachment := do
  let g ← t.requireGateway v.gateway c.account scope
  pure
    { kind := .vpn, child := v.name, name := v.name, gateway := g.name
      gatewayAccount := g.account, region := g.region, owner := ⟨c.account, c.region⟩
      templated := false, associations := v.associations, propagations := v.propagations }

/-- The attachment of a Direct Connect gateway. Such a gateway has no region, so
the attachment is owned by the owner of the transit gateway. -/
def directConnectAttachment (t : Topology) (scope : Scope) (d : DirectConnectGateway)
    (a : DirectConnectAssociation) : Except PlanError Attachment := do
  let g ← t.requireGateway a.gateway.name a.gateway.account scope
  pure
    { kind := .directConnect, child := d.name, name := d.name, gateway := g.name
      gatewayAccount := g.account, region := g.region, owner := ⟨g.account, g.region⟩
      templated := false, associations := a.associations, propagations := a.propagations }

/-- The attachment of one side of a peering of gateways. A peering announces
nothing. -/
def peeringAttachment (t : Topology) (scope : Scope) (p : GatewayPeering)
    (s : GatewayPeeringSide) : Except PlanError Attachment := do
  let g ← t.requireGateway s.gateway s.account scope
  pure
    { kind := .peering, child := p.name, name := p.name, gateway := g.name
      gatewayAccount := g.account, region := g.region, owner := ⟨s.account, s.region⟩
      templated := false, associations := s.associations, propagations := [] }

/-- Every attachment of a topology on its own, as seen from a scope. -/
def attachmentResults (t : Topology) (accounts : Registry) (scope : Scope) :
    List (Except PlanError Attachment) :=
  (t.network.vpcs.flatMap fun v => (accounts.vpcAccounts v).flatMap fun account =>
      v.attachments.map (t.vpcAttachment scope v account)) ++
    (t.network.customerGateways.flatMap fun c =>
      c.vpnConnections.map (t.vpnAttachment scope c)) ++
    (t.network.directConnectGateways.flatMap fun d =>
      d.associations.map (t.directConnectAttachment scope d)) ++
    t.network.gatewayPeerings.flatMap fun p => p.sides.map (t.peeringAttachment scope p)

/-- The attachments of a topology, as seen from a scope. -/
def attachments (t : Topology) (accounts : Registry) (scope : Scope) :
    Except PlanError (List Attachment) :=
  collectOk (t.attachmentResults accounts scope)

end Topology

end Interlink
