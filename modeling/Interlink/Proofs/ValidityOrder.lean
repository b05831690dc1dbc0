import Interlink.Proofs.AccountLists
import Interlink.Proofs.ListOrder
import Interlink.Proofs.References

/-!
# Validity does not depend on order

Validation reports the first fault that it comes to. It remembers names it has seen and
takes the first entry of a name, so what it reports depends on the order of the
description. Whether there is a fault does not, and neither does the part of the
description that the reported one is about (`validation_ignores_order`). All lists of a
description may be in another order here, also those inside their elements.

That a validator finds nothing is a condition on every element, apart from names that must
not repeat; and names repeat in any order or in none. Where an element is looked up, it has
to be the same in both orders. For gateways and resolver rules that is so if their names do
not repeat (`Reorders.find?`), and only then: so what refers to gateways is compared where
the validator of gateways has found nothing. Otherwise there is a fault in both orders
anyhow.
-/

namespace Interlink

/-! ## Topologies in another order

The relations follow the data: what is a list may be in another order, and its elements correspond
again. -/

structure GatewayRouteTable.Rearranged (a b : GatewayRouteTable) : Prop where
  name : a.name = b.name
  routes : a.routes.Perm b.routes

structure Gateway.Rearranged (a b : Gateway) : Prop where
  name : a.name = b.name
  account : a.account = b.account
  region : a.region = b.region
  routeTables : Reorders GatewayRouteTable.Rearranged a.routeTables b.routeTables

structure Targets.Rearranged (a b : Targets) : Prop where
  accounts : a.accounts.Perm b.accounts
  organizationalUnits : a.organizationalUnits.Perm b.organizationalUnits
  excludedAccounts : a.excludedAccounts.Perm b.excludedAccounts

inductive Placement.Rearranged : Placement → Placement → Prop
  | single (account : String) : Rearranged (.single account) (.single account)
  | targets {a b : Targets} (choices : a.Rearranged b) : Rearranged (.targets a) (.targets b)

structure VpcRouteTable.Rearranged (a b : VpcRouteTable) : Prop where
  name : a.name = b.name
  routes : a.routes.Perm b.routes

structure VpcAttachment.Rearranged (a b : VpcAttachment) : Prop where
  name : a.name = b.name
  gateway : a.gateway = b.gateway
  associations : a.associations.Perm b.associations
  propagations : a.propagations.Perm b.propagations

structure Vpc.Rearranged (a b : Vpc) : Prop where
  name : a.name = b.name
  region : a.region = b.region
  placement : a.placement.Rearranged b.placement
  cidrs : a.cidrs.Perm b.cidrs
  ipamPool : a.ipamPool = b.ipamPool
  routeTables : Reorders VpcRouteTable.Rearranged a.routeTables b.routeTables
  attachments : Reorders VpcAttachment.Rearranged a.attachments b.attachments
  resolverRules : a.resolverRules.Perm b.resolverRules

structure VpcPeering.Rearranged (a b : VpcPeering) : Prop where
  name : a.name = b.name
  vpcs : a.vpcs.Perm b.vpcs
  tags : a.tags = b.tags

structure PrefixList.Rearranged (a b : PrefixList) : Prop where
  name : a.name = b.name
  accounts : a.accounts.Perm b.accounts
  regions : a.regions.Perm b.regions
  entries : a.entries.Perm b.entries

structure GatewayPeeringSide.Rearranged (a b : GatewayPeeringSide) : Prop where
  gateway : a.gateway = b.gateway
  account : a.account = b.account
  region : a.region = b.region
  associations : a.associations.Perm b.associations

structure GatewayPeering.Rearranged (a b : GatewayPeering) : Prop where
  name : a.name = b.name
  requester : a.requester.Rearranged b.requester
  accepter : a.accepter.Rearranged b.accepter

structure VpnConnection.Rearranged (a b : VpnConnection) : Prop where
  name : a.name = b.name
  gateway : a.gateway = b.gateway
  associations : a.associations.Perm b.associations
  propagations : a.propagations.Perm b.propagations

structure CustomerGateway.Rearranged (a b : CustomerGateway) : Prop where
  name : a.name = b.name
  account : a.account = b.account
  region : a.region = b.region
  vpnConnections : Reorders VpnConnection.Rearranged a.vpnConnections b.vpnConnections

structure DirectConnectAssociation.Rearranged (a b : DirectConnectAssociation) : Prop where
  gateway : a.gateway = b.gateway
  associations : a.associations.Perm b.associations
  propagations : a.propagations.Perm b.propagations

structure DirectConnectGateway.Rearranged (a b : DirectConnectGateway) : Prop where
  name : a.name = b.name
  account : a.account = b.account
  associations : Reorders DirectConnectAssociation.Rearranged a.associations b.associations

structure ExternalEdges.Rearranged (a b : ExternalEdges) : Prop where
  associations : a.associations.Perm b.associations
  propagations : a.propagations.Perm b.propagations

structure Network.Rearranged (a b : Network) : Prop where
  gateways : Reorders Gateway.Rearranged a.gateways b.gateways
  vpcs : Reorders Vpc.Rearranged a.vpcs b.vpcs
  vpcPeerings : Reorders VpcPeering.Rearranged a.vpcPeerings b.vpcPeerings
  prefixLists : Reorders PrefixList.Rearranged a.prefixLists b.prefixLists
  gatewayPeerings : Reorders GatewayPeering.Rearranged a.gatewayPeerings b.gatewayPeerings
  customerGateways : Reorders CustomerGateway.Rearranged a.customerGateways b.customerGateways
  directConnectGateways :
    Reorders DirectConnectGateway.Rearranged a.directConnectGateways b.directConnectGateways
  resolverRules : a.resolverRules.Perm b.resolverRules
  external : a.external.Rearranged b.external

/-- The same description with any of its lists in another order, at whatever depth. -/
structure Topology.Rearranged (t t' : Topology) : Prop where
  settings : t.settings = t'.settings
  accounts : t.accounts.Perm t'.accounts
  network : t.network.Rearranged t'.network

theorem Gateway.Rearranged.hasRouteTable {g g' : Gateway} (h : g.Rearranged g') (table : String) :
    g.hasRouteTable table = g'.hasRouteTable table :=
  h.routeTables.any_eq fun a b same => by rw [same.name]

namespace Topology

variable {t t' : Topology}

/-! ## The same in another order -/

theorem accountFaults_perm {accounts accounts' : List Account} (perm : accounts.Perm accounts') :
    accountFaults accounts = [] ↔ accountFaults accounts' = [] := by
  simp only [accountFaults_eq_nil_iff, (perm.map _).nodup_iff, perm.mem_iff]

/-- A reference to route tables of a gateway, in another order. -/
theorem routeTableFaults_congr {g g' : Gateway} {subject subject' : Subject}
    {tables tables' : List String} (same : g.Rearranged g') (perm : tables.Perm tables') :
    routeTableFaults g subject tables = [] ↔ routeTableFaults g' subject' tables' = [] := by
  rw [routeTableFaults_eq_nil, routeTableFaults_eq_nil]
  simp only [perm.mem_iff, same.hasRouteTable]

theorem staticRouteFaults_congr {g g' : Gateway} {table table' : GatewayRouteTable}
    (gateway : g.name = g'.name) (name : table.name = table'.name) (r : StaticRoute) :
    staticRouteFaults g table r = staticRouteFaults g' table' r := by
  unfold staticRouteFaults
  rw [gateway, name]

theorem vpcRouteFaults_congr {v v' : Vpc} (name : v.name = v'.name) (r : VpcRoute) :
    vpcRouteFaults v r = vpcRouteFaults v' r := by
  unfold vpcRouteFaults
  rw [name]

namespace Rearranged

variable (h : t.Rearranged t')
include h

theorem hasAccount (name : String) : t.hasAccount name = t'.hasAccount name :=
  (Reorders.of_perm h.accounts).any_eq fun _ _ same => by rw [same]

/-- Gateways have faults in either order or in none. -/
theorem gatewayFaults : t.gatewayFaults = [] ↔ t'.gatewayFaults = [] := by
  rw [gatewayFaults_eq_nil_iff, gatewayFaults_eq_nil_iff]
  refine and_congr (and_congr ?accounts ?regions) ?each
  case accounts =>
    exact h.network.gateways.nodup_iff fun _ _ same => Prod.ext same.name same.account
  case regions =>
    exact h.network.gateways.nodup_iff fun _ _ same => Prod.ext same.name same.region
  case each =>
    refine h.network.gateways.forall_iff fun g g' same => ?_
    rw [h.hasAccount, same.account]
    refine and_congr_right fun _ => and_congr ?_ ?_
    · exact same.routeTables.nodup_iff fun _ _ alike => alike.name
    · refine same.routeTables.forall_iff fun table table' alike => ?_
      simp only [alike.routes.mem_iff, staticRouteFaults_congr same.name alike.name]

theorem placementFaults {v v' : Vpc} (same : v.placement.Rearranged v'.placement) :
    t.placementFaults v = [] ↔ t'.placementFaults v' = [] := by
  unfold Topology.placementFaults
  generalize v.placement = placement at same ⊢
  generalize v'.placement = placement' at same ⊢
  cases same with
  | single account => rw [orFault_eq_nil, orFault_eq_nil, h.hasAccount]
  | targets choices =>
    have listed := choices.accounts.append choices.excludedAccounts
    simp only [List.append_eq_nil_iff, List.flatMap_eq_nil_iff, orFault_eq_nil, Bool.not_eq_true',
      Bool.and_eq_false_iff, choices.accounts.isEmpty_eq, choices.organizationalUnits.isEmpty_eq,
      listed.mem_iff, h.hasAccount]

/-- The VPCs that a peering names are there in either order. -/
theorem vpc?_isSome (name : String) : (t.vpc? name).isSome = (t'.vpc? name).isSome := by
  unfold vpc?
  rw [List.isSome_find?, List.isSome_find?]
  exact h.network.vpcs.any_eq fun _ _ same => by rw [same.name]

theorem peeringFaults : t.peeringFaults = [] ↔ t'.peeringFaults = [] := by
  rw [peeringFaults_eq_nil_iff, peeringFaults_eq_nil_iff]
  refine and_congr ?_ (h.network.vpcPeerings.forall_iff fun p p' same => ?_)
  · exact h.network.vpcPeerings.nodup_iff fun _ _ same => same.name
  · simp only [same.vpcs.length_eq, same.vpcs.nodup_iff, same.vpcs.mem_iff, h.vpc?_isSome]

section Gateways

variable (gateways : t.gatewayFaults = [])
include gateways

/-- Where gateways have no faults, corresponding ones are found. -/
theorem gateway? (name account : String) :
    Option.Rel Gateway.Rearranged (t.gateway? name account) (t'.gateway? name account) :=
  h.network.gateways.find? (fun _ _ same => Prod.ext same.name same.account)
    (gatewayFaults_eq_nil_iff.mp gateways).1.1 (name, account)

theorem gatewayRefFaults {subject subject' : Subject} {name account : String}
    {further further' : Gateway → List NetworkFault}
    (alike : ∀ g g', g.Rearranged g' → (further g = [] ↔ further' g' = [])) :
    t.gatewayRefFaults subject name account further = [] ↔
      t'.gatewayRefFaults subject' name account further' = [] := by
  have found := h.gateway? gateways name account
  unfold Topology.gatewayRefFaults
  generalize t.gateway? name account = there at found ⊢
  generalize t'.gateway? name account = there' at found ⊢
  cases found with
  | none => exact iff_of_false (List.cons_ne_nil _ _) (List.cons_ne_nil _ _)
  | some same => exact alike _ _ same

/-- What is attached to a gateway with two lists of route tables, in another order. -/
theorem tableRefFaults {subject subject' : Subject} {ref ref' : GatewayRef}
    {associations associations' propagations propagations' : List String} (same : ref = ref')
    (associated : associations.Perm associations') (propagated : propagations.Perm propagations') :
    t.gatewayRefFaults subject ref.name ref.account (fun g =>
        routeTableFaults g subject associations ++ routeTableFaults g subject propagations) = [] ↔
      t'.gatewayRefFaults subject' ref'.name ref'.account (fun g =>
        routeTableFaults g subject' associations' ++
          routeTableFaults g subject' propagations') = [] := by
  rw [same]
  refine h.gatewayRefFaults gateways fun g g' alike => ?_
  rw [List.append_eq_nil_iff, List.append_eq_nil_iff]
  exact and_congr (routeTableFaults_congr alike associated)
    (routeTableFaults_congr alike propagated)

theorem vpcFaults : t.vpcFaults = [] ↔ t'.vpcFaults = [] := by
  rw [vpcFaults_eq_nil_iff, vpcFaults_eq_nil_iff]
  refine and_congr ?_ (h.network.vpcs.forall_iff fun v v' same => ?_)
  · exact h.network.vpcs.nodup_iff fun _ _ same => same.name
  · refine and_congr (h.placementFaults same.placement) (and_congr ?blocks
      (and_congr ?valid (and_congr ?routes ?attachments)))
    case blocks => rw [same.cidrs.isEmpty_eq, same.ipamPool]
    case valid => simp only [same.cidrs.mem_iff]
    case routes =>
      refine same.routeTables.forall_iff fun table table' alike => ?_
      simp only [alike.routes.mem_iff, vpcRouteFaults_congr same.name]
    case attachments =>
      exact same.attachments.forall_iff fun a a' alike =>
        h.tableRefFaults gateways alike.gateway alike.associations alike.propagations

theorem customerGatewayFaults :
    t.customerGatewayFaults = [] ↔ t'.customerGatewayFaults = [] := by
  rw [customerGatewayFaults_eq_nil_iff, customerGatewayFaults_eq_nil_iff]
  refine and_congr ?_ (h.network.customerGateways.forall_iff fun c c' same => ?_)
  · refine (h.network.customerGateways.flatMap fun c c' same => ?_).nodup_iff
    exact same.vpnConnections.map fun v v' alike => Prod.ext alike.name same.account
  · rw [h.hasAccount, same.account]
    refine and_congr_right fun _ => same.vpnConnections.forall_iff fun v v' alike => ?_
    unfold vpnFaults
    rw [same.account, alike.gateway]
    refine h.gatewayRefFaults gateways fun g g' found => ?_
    simp only [List.append_eq_nil_iff, orFault_eq_nil, found.region, same.region]
    exact and_congr (and_congr_right fun _ => routeTableFaults_congr found alike.associations)
      (routeTableFaults_congr found alike.propagations)

theorem directConnectFaults : t.directConnectFaults = [] ↔ t'.directConnectFaults = [] := by
  unfold Topology.directConnectFaults
  rw [List.flatMap_eq_nil_iff, List.flatMap_eq_nil_iff]
  refine h.network.directConnectGateways.forall_iff fun d d' same => ?_
  simp only [List.append_eq_nil_iff, List.flatMap_eq_nil_iff, orFault_eq_nil]
  rw [h.hasAccount, same.account]
  exact and_congr_right fun _ => same.associations.forall_iff fun a a' alike =>
    h.tableRefFaults gateways alike.gateway alike.associations alike.propagations

theorem gatewayPeeringSideFaults {p p' : GatewayPeering} {s s' : GatewayPeeringSide}
    (same : s.Rearranged s') :
    t.gatewayPeeringSideFaults p s = [] ↔ t'.gatewayPeeringSideFaults p' s' = [] := by
  unfold Topology.gatewayPeeringSideFaults
  rw [List.append_eq_nil_iff, List.append_eq_nil_iff, orFault_eq_nil, orFault_eq_nil,
    h.hasAccount, same.account, same.gateway]
  refine and_congr_right fun _ => h.gatewayRefFaults gateways fun g g' found => ?_
  simp only [List.append_eq_nil_iff, orFault_eq_nil, found.region, same.region]
  exact and_congr_right fun _ => routeTableFaults_congr found same.associations

theorem gatewayPeeringFaults : t.gatewayPeeringFaults = [] ↔ t'.gatewayPeeringFaults = [] := by
  rw [gatewayPeeringFaults_eq_nil_iff, gatewayPeeringFaults_eq_nil_iff]
  refine and_congr ?_ (h.network.gatewayPeerings.forall_iff fun p p' same => ?_)
  · exact h.network.gatewayPeerings.nodup_iff fun _ _ same => same.name
  · simp only [GatewayPeering.sides, List.forall_mem_cons, List.not_mem_nil, false_implies,
      implies_true, and_true]
    rw [h.gatewayPeeringSideFaults gateways same.requester,
      h.gatewayPeeringSideFaults gateways same.accepter, same.requester.gateway,
      same.requester.account, same.accepter.gateway, same.accepter.account]

end Gateways

theorem resolverRuleFaults : t.resolverRuleFaults = [] ↔ t'.resolverRuleFaults = [] := by
  rw [resolverRuleFaults_eq_nil_iff, resolverRuleFaults_eq_nil_iff]
  have perm := h.network.resolverRules
  have defined := and_congr (perm.map (·.name)).nodup_iff
    (show (∀ r ∈ t.network.resolverRules, t.hasAccount r.account = true) ↔
        ∀ r ∈ t'.network.resolverRules, t'.hasAccount r.account = true by
      simp only [perm.mem_iff, h.hasAccount])
  -- Rules are looked up where their names are known not to repeat.
  refine (and_congr_right fun own => ?_).trans (and_congr_left' defined)
  have same (name : String) : t.resolverRule? name = t'.resolverRule? name := by
    have found : Option.Rel Eq (t.resolverRule? name) (t'.resolverRule? name) :=
      (Reorders.of_perm perm).find? (fun _ _ same => by rw [same]) own.1 name
    generalize t.resolverRule? name = there at found ⊢
    generalize t'.resolverRule? name = there' at found ⊢
    cases found with
    | none => rfl
    | some same => rw [same]
  refine h.network.vpcs.forall_iff fun v v' alike => ?_
  have rules (name : String) : t.vpcRuleFaults v name = [] ↔ t'.vpcRuleFaults v' name = [] := by
    unfold vpcRuleFaults
    rw [same, alike.region]
    cases t'.resolverRule? name with
    | none => exact iff_of_false (List.cons_ne_nil _ _) (List.cons_ne_nil _ _)
    | some rule => rw [orFault_eq_nil, orFault_eq_nil]
  simp only [alike.resolverRules.mem_iff, rules]

/-- A network has faults in either order or in none. -/
theorem networkFaults : t.networkFaults = [] ↔ t'.networkFaults = [] := by
  unfold Topology.networkFaults Topology.attachmentFaults
  simp only [List.append_eq_nil_iff, and_assoc]
  -- Everything that refers to gateways is looked at where these have no faults.
  refine (and_congr_right fun gateways => ?_).trans (and_congr_left' h.gatewayFaults)
  rw [h.vpcFaults gateways, h.peeringFaults, h.customerGatewayFaults gateways,
    h.directConnectFaults gateways, h.gatewayPeeringFaults gateways, h.resolverRuleFaults]

end Rearranged

end Topology

/-! ## What is reported -/

/-- A part of a description that is validated on its own. -/
inductive ValidationPart
  | settings
  | accounts
  | network
deriving DecidableEq, Repr

/-- The part that an error is about. -/
def ValidationError.part : ValidationError → ValidationPart
  | .settings _ => .settings
  | .accounts _ => .accounts
  | .network _ => .network

/-- The part with the error that is reported is the first one with a fault. -/
theorem Topology.validate_part (t : Topology) :
    t.validate.mapError ValidationError.part =
      if t.settingsFaults ≠ [] then .error .settings
      else if accountFaults t.accounts ≠ [] then .error .accounts
      else if t.networkFaults ≠ [] then .error .network
      else .ok () := by
  unfold validate faults
  cases t.settingsFaults with
  | cons fault others => simp [Except.mapError, ValidationError.part]
  | nil =>
    cases accountFaults t.accounts with
    | cons fault others => simp [Except.mapError, ValidationError.part]
    | nil =>
      cases t.networkFaults with
      | cons fault others => simp [Except.mapError, ValidationError.part]
      | nil => rfl

/-- A description is accepted in any order or in none, and where it is refused, then for a fault in
the same part. -/
theorem validation_ignores_order {t t' : Topology} (rearranged : t.Rearranged t') :
    t.validate.mapError ValidationError.part = t'.validate.mapError ValidationError.part := by
  have settings : t.settingsFaults = t'.settingsFaults := by
    unfold Topology.settingsFaults
    rw [rearranged.settings]
  simp only [Topology.validate_part, ne_eq, settings,
    Topology.accountFaults_perm rearranged.accounts, rearranged.networkFaults]

/-- A VPC of one account with these blocks. -/
def Vpc.sampleBlocks (name : String) (cidrs : List String) : Vpc :=
  { name, region := "us-east-1", placement := .single "Network", cidrs, ipamPool := none }

/-- Two VPCs; each has a block that is none. -/
def Topology.sampleMalformed : Topology where
  settings := { homeRegion := "eu-west-1" }
  accounts := [{ name := "Network", id := "111111111111", organizationalUnit := none }]
  network :=
    { vpcs := [.sampleBlocks "App" ["10.0.0.0/33", "10.1.0.0/16"],
        .sampleBlocks "Shared" ["10.2.0.0"]] }

/-- The same with VPCs and blocks backwards. -/
def Topology.sampleMalformedBackwards : Topology :=
  { Topology.sampleMalformed with
    network :=
      { vpcs := [.sampleBlocks "Shared" ["10.2.0.0"],
          .sampleBlocks "App" ["10.1.0.0/16", "10.0.0.0/33"]] } }

theorem Vpc.sampleBlocks_rearranged (name : String) {cidrs cidrs' : List String}
    (perm : cidrs.Perm cidrs') :
    (Vpc.sampleBlocks name cidrs).Rearranged (Vpc.sampleBlocks name cidrs') where
  name := rfl
  region := rfl
  placement := .single _
  cidrs := perm
  ipamPool := rfl
  routeTables := ⟨[], .nil, .refl _⟩
  attachments := ⟨[], .nil, .refl _⟩
  resolverRules := .refl _

theorem Topology.sampleMalformed_rearranged :
    Topology.sampleMalformed.Rearranged .sampleMalformedBackwards where
  settings := rfl
  accounts := .refl _
  network :=
    { gateways := ⟨[], .nil, .refl _⟩
      vpcs := ⟨_, .cons (Vpc.sampleBlocks_rearranged _ (.swap _ _ _))
        (.cons (Vpc.sampleBlocks_rearranged _ (.refl _)) .nil), .swap _ _ _⟩
      vpcPeerings := ⟨[], .nil, .refl _⟩
      prefixLists := ⟨[], .nil, .refl _⟩
      gatewayPeerings := ⟨[], .nil, .refl _⟩
      customerGateways := ⟨[], .nil, .refl _⟩
      directConnectGateways := ⟨[], .nil, .refl _⟩
      resolverRules := .refl _
      external := ⟨.refl _, .refl _⟩ }

/-- Another fault is reported first, in the same part. -/
theorem validation_ignores_order_sample :
    Topology.sampleMalformed.validate =
        .error (.network (.malformedCidr (.vpc "App") "10.0.0.0/33")) ∧
      Topology.sampleMalformedBackwards.validate =
        .error (.network (.malformedCidr (.vpc "Shared") "10.2.0.0")) ∧
      Topology.sampleMalformed.validate.mapError ValidationError.part =
        Topology.sampleMalformedBackwards.validate.mapError ValidationError.part :=
  ⟨by decide +kernel, by decide +kernel,
    validation_ignores_order Topology.sampleMalformed_rearranged⟩

end Interlink
