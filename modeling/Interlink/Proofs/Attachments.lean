import Interlink.Proofs.Validity
import Interlink.Attachment

/-!
# Where attachments stand

The list of attachments does not depend on who looks at it: only its errors name
the scope (`attachments_eq_ok`). In a valid topology every attachment is
`Grounded`: its gateway is defined, it is owned in the region of its gateway,
and only a VPC is attached to a gateway of another owner. Each sort of child has
a reason of its own for that. A VPC is looked at when its attachment is
described, VPN connections and peerings when the topology is validated, and a
Direct Connect gateway is given the owner of the transit gateway.
-/

namespace Interlink

/-! ## Results in a list -/

/-- A list of results has no error if and only if it is a list of values. -/
theorem collectOk_eq_ok {ε α : Type} :
    ∀ {rs : List (Except ε α)} {as : List α}, collectOk rs = .ok as ↔ rs = as.map .ok
  | [], as => by
    cases as <;> simp [collectOk]
  | .error e :: rest, as => by
    cases as <;> simp [collectOk]
  | .ok a :: rest, as => by
    have others (bs : List α) : collectOk rest = .ok bs ↔ rest = bs.map .ok := collectOk_eq_ok
    cases collected : collectOk rest with
    | error e =>
      simp only [collectOk, collected, Except.map, reduceCtorEq, false_iff]
      intro h
      cases as with
      | nil => exact nomatch h
      | cons b bs =>
        have := (others bs).mpr (List.cons.inj h).2
        rw [collected] at this
        exact nomatch this
    | ok bs =>
      obtain rfl := (others bs).mp collected
      rw [collectOk, collected]
      show Except.ok (a :: bs) = .ok as ↔ (a :: bs).map Except.ok = as.map .ok
      rw [Except.ok.injEq, List.map_inj_right fun _ _ => Except.ok.inj]

/-- What is collected along a list stands beside the list, one by one. -/
theorem forall₂_of_collectOk {ε α β : Type} {f : β → Except ε α} {bs : List β} {as : List α}
    (collected : collectOk (bs.map f) = .ok as) : List.Forall₂ (fun b a => f b = .ok a) bs as := by
  have equal := collectOk_eq_ok.mp collected
  rwa [← List.forall₂_eq_eq_eq, List.forall₂_map_left_iff, List.forall₂_map_right_iff] at equal

section Collected

variable {ε α : Type} {rs : List (Except ε α)} {as : List α} (collected : collectOk rs = .ok as)
include collected

/-- What is collected is the value of a result. -/
theorem mem_of_collectOk {a : α} (ha : a ∈ as) : .ok a ∈ rs := by
  rw [collectOk_eq_ok.mp collected]
  exact List.mem_map_of_mem ha

/-- Every result has a value, and it is collected. -/
theorem ok_of_collectOk {r : Except ε α} (hr : r ∈ rs) : ∃ a ∈ as, r = .ok a := by
  rw [collectOk_eq_ok.mp collected] at hr
  obtain ⟨a, ha, rfl⟩ := List.mem_map.mp hr
  exact ⟨a, ha, rfl⟩

end Collected

/-- The error as it looks from another scope. -/
def PlanError.seenFrom (scope : Scope) : PlanError → PlanError
  | .misconfigured fault _ => .misconfigured fault scope
  | e => e

namespace Topology

variable {t : Topology} {accounts : Registry} {scope : Scope}

/-! ## The scope that looks -/

theorem vpcAttachment_seenFrom (t : Topology) (v : Vpc) (account : String) (a : VpcAttachment)
    (s s' : Scope) :
    (t.vpcAttachment s v account a).mapError (.seenFrom s') = t.vpcAttachment s' v account a := by
  unfold vpcAttachment requireGateway
  cases t.gateway? a.gateway.name a.gateway.account with
  | none => rfl
  | some g =>
    simp only [bind, Except.bind]
    split <;> rfl

theorem vpnAttachment_seenFrom (t : Topology) (c : CustomerGateway) (v : VpnConnection)
    (s s' : Scope) :
    (t.vpnAttachment s c v).mapError (.seenFrom s') = t.vpnAttachment s' c v := by
  unfold vpnAttachment requireGateway
  cases t.gateway? v.gateway c.account <;> rfl

theorem directConnectAttachment_seenFrom (t : Topology) (d : DirectConnectGateway)
    (a : DirectConnectAssociation) (s s' : Scope) :
    (t.directConnectAttachment s d a).mapError (.seenFrom s') =
      t.directConnectAttachment s' d a := by
  unfold directConnectAttachment requireGateway
  cases t.gateway? a.gateway.name a.gateway.account <;> rfl

theorem peeringAttachment_seenFrom (t : Topology) (p : GatewayPeering) (side : GatewayPeeringSide)
    (s s' : Scope) :
    (t.peeringAttachment s p side).mapError (.seenFrom s') = t.peeringAttachment s' p side := by
  unfold peeringAttachment requireGateway
  cases t.gateway? side.gateway side.account <;> rfl

theorem attachmentResults_seenFrom (t : Topology) (accounts : Registry) (s s' : Scope) :
    (t.attachmentResults accounts s).map (·.mapError (.seenFrom s')) =
      t.attachmentResults accounts s' := by
  simp only [attachmentResults, List.map_append, List.map_flatMap, List.map_map,
    Function.comp_def, vpcAttachment_seenFrom, vpnAttachment_seenFrom,
    directConnectAttachment_seenFrom, peeringAttachment_seenFrom]

/-- Attachments described for one scope are described for every scope. -/
theorem attachments_eq_ok {ds : List Attachment} (h : t.attachments accounts scope = .ok ds)
    (s : Scope) : t.attachments accounts s = .ok ds := by
  unfold attachments at h ⊢
  rw [collectOk_eq_ok] at h ⊢
  rw [← attachmentResults_seenFrom t accounts scope s, h, List.map_map]
  rfl

/-! ## What attachments are made of -/

/-- What a result in the list of attachments has been worked out from. -/
inductive WorkedOut (t : Topology) (accounts : Registry) (scope : Scope)
    (r : Except PlanError Attachment) : Prop
  | vpc {v : Vpc} {account : String} {a : VpcAttachment} (defined : v ∈ t.network.vpcs)
      (deployed : account ∈ accounts.vpcAccounts v) (attached : a ∈ v.attachments)
      (made : t.vpcAttachment scope v account a = r)
  | vpn {c : CustomerGateway} {v : VpnConnection} (defined : c ∈ t.network.customerGateways)
      (connected : v ∈ c.vpnConnections) (made : t.vpnAttachment scope c v = r)
  | directConnect {d : DirectConnectGateway} {a : DirectConnectAssociation}
      (defined : d ∈ t.network.directConnectGateways) (associated : a ∈ d.associations)
      (made : t.directConnectAttachment scope d a = r)
  | peering {p : GatewayPeering} {side : GatewayPeeringSide}
      (defined : p ∈ t.network.gatewayPeerings) (sided : side ∈ p.sides)
      (made : t.peeringAttachment scope p side = r)

theorem workedOut_of_mem {r : Except PlanError Attachment}
    (h : r ∈ t.attachmentResults accounts scope) : t.WorkedOut accounts scope r := by
  simp only [attachmentResults, List.mem_append, List.mem_flatMap, List.mem_map] at h
  rcases h with ((⟨v, hv, account, deployed, a, ha, made⟩ | ⟨c, hc, v, hv, made⟩) |
    ⟨d, hd, a, ha, made⟩) | ⟨p, hp, side, hs, made⟩
  · exact .vpc hv deployed ha made
  · exact .vpn hc hv made
  · exact .directConnect hd ha made
  · exact .peering hp hs made

/-- Every attachment that is described has been worked out from a child. -/
theorem workedOut_of_described {ds : List Attachment}
    (described : t.attachments accounts scope = .ok ds) {d : Attachment} (hd : d ∈ ds) :
    t.WorkedOut accounts scope (.ok d) := by
  exact workedOut_of_mem (mem_of_collectOk described hd)

/-! ## Gateways of attachments -/

/-- What is made of a gateway that an attachment needs is made of one that is
defined. -/
theorem requireGateway_bind_ok {α : Type} {name account : String} {f : Gateway → Except PlanError α}
    {a : α} (h : (t.requireGateway name account scope >>= f) = .ok a) :
    ∃ g, t.gateway? name account = some g ∧ f g = .ok a := by
  unfold requireGateway at h
  cases found : t.gateway? name account with
  | none =>
    rw [found] at h
    exact nomatch h
  | some g =>
    rw [found] at h
    exact ⟨g, rfl, h⟩

theorem gateway?_self {name account : String} {g : Gateway}
    (h : t.gateway? name account = some g) : t.gateway? g.name g.account = some g := by
  obtain ⟨-, hname, haccount⟩ := gateway?_some h
  rw [hname, haccount, h]

/-- An attachment stands where its gateway stands. -/
structure Grounded (t : Topology) (a : Attachment) : Prop where
  /-- The gateway is defined, in the region of the attachment. -/
  gateway : ∃ g, t.gateway? a.gateway a.gatewayAccount = some g ∧ g.region = a.region
  /-- The owner is in that region too. -/
  region : a.owner.region = a.region
  /-- Only a VPC has another owner than its gateway. -/
  owner : a.kind ≠ .vpc → a.owner = a.gatewayScope

theorem grounded_vpc {v : Vpc} {account : String} {a : VpcAttachment} {d : Attachment}
    (h : t.vpcAttachment scope v account a = .ok d) : t.Grounded d := by
  obtain ⟨g, found, h⟩ := requireGateway_bind_ok h
  split at h
  · next region =>
    cases h
    exact ⟨⟨g, gateway?_self found, rfl⟩, region.symm, fun k => absurd rfl k⟩
  · exact nomatch h

/-- An attachment with the owner of its gateway is grounded. -/
theorem grounded_of_owner {a : Attachment} {g : Gateway}
    (found : t.gateway? a.gateway a.gatewayAccount = some g) (region : g.region = a.region)
    (owner : a.owner = a.gatewayScope) : t.Grounded a :=
  ⟨⟨g, found, region⟩, congrArg Scope.region owner, fun _ => owner⟩

theorem grounded_vpn (faultless : t.Faultless) {c : CustomerGateway} {v : VpnConnection}
    {d : Attachment} (hc : c ∈ t.network.customerGateways) (hv : v ∈ c.vpnConnections)
    (h : t.vpnAttachment scope c v = .ok d) : t.Grounded d := by
  obtain ⟨g, found, h⟩ := requireGateway_bind_ok h
  have account : g.account = c.account := (gateway?_some found).2.2
  have region : g.region = c.region := faultless.vpn_region hc hv found
  cases h
  refine grounded_of_owner (gateway?_self found) rfl ?_
  rw [Attachment.gatewayScope, account, region]

theorem grounded_directConnect {d : DirectConnectGateway} {a : DirectConnectAssociation}
    {x : Attachment} (h : t.directConnectAttachment scope d a = .ok x) : t.Grounded x := by
  obtain ⟨g, found, h⟩ := requireGateway_bind_ok h
  cases h
  exact grounded_of_owner (gateway?_self found) rfl rfl

theorem grounded_peering (faultless : t.Faultless) {p : GatewayPeering} {s : GatewayPeeringSide}
    {d : Attachment} (hp : p ∈ t.network.gatewayPeerings) (hs : s ∈ p.sides)
    (h : t.peeringAttachment scope p s = .ok d) : t.Grounded d := by
  obtain ⟨g, found, h⟩ := requireGateway_bind_ok h
  have account : g.account = s.account := (gateway?_some found).2.2
  have region : g.region = s.region := faultless.peeringSide_region hp hs found
  cases h
  refine grounded_of_owner (gateway?_self found) rfl ?_
  rw [Attachment.gatewayScope, account, region]

/-- Every attachment of a valid topology is grounded. -/
theorem Faultless.grounded (faultless : t.Faultless) {ds : List Attachment}
    (described : t.attachments accounts scope = .ok ds) {d : Attachment} (hd : d ∈ ds) :
    t.Grounded d := by
  cases workedOut_of_described described hd with
  | vpc _ _ _ made => exact grounded_vpc made
  | vpn defined connected made => exact grounded_vpn faultless defined connected made
  | directConnect _ _ made => exact grounded_directConnect made
  | peering defined sided made => exact grounded_peering faultless defined sided made

end Topology

end Interlink
