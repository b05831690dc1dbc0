import Interlink.Proofs.Attachments
import Interlink.Proofs.RegistryIndex

/-!
# Names of a valid topology lead somewhere

The description of a topology refers to accounts, gateways, route tables, VPCs
and rules by name, and validation looks most of these names up. What it finds is
stated here once for every sort of reference, and then for the attachments that
are described (`Faultless.linked`). One thing is left to whoever describes the
attachments: a VPC may be attached to a gateway of another region, and this is
the only reason for which a valid topology does not describe its attachments
(`Faultless.attachments_error`).
-/

namespace Interlink

/-! ## Accounts -/

namespace Registry

/-- A registry has the accounts of a list, each name once. -/
structure Lists (r : Registry) (accounts : List Account) : Prop where
  known : ∀ {name : String},
    (r.index.lookup name).isSome = true ↔ ∃ a ∈ accounts, a.name = name
  position : ∀ {name : String} {i : Nat}, r.index.lookup name = some i → i < r.accounts.length
  listed : ∀ a ∈ r.accounts, a ∈ accounts

variable {r : Registry} {accounts : List Account} {name : String}

theorem lists_ofAccounts (accounts : List Account) : (ofAccounts accounts).Lists accounts where
  known := by
    intro name
    rw [(fits_ofAccounts accounts).indexed_iff, accounts_ofAccounts, mem_keys_firsts, List.mem_map]
  position found := ((fits_ofAccounts accounts).located.mp found).1
  listed a ha := firsts_sublist.subset (accounts_ofAccounts accounts ▸ ha)

/-- An account has an id if and only if it is listed. -/
theorem Lists.accountId?_isSome (h : r.Lists accounts) :
    (r.accountId? name).isSome = true ↔ ∃ a ∈ accounts, a.name = name := by
  rw [← h.known]
  unfold accountId? get?
  cases found : r.index.lookup name with
  | none => simp
  | some i =>
    have there := h.position found
    simp [there]

theorem firstOccurrences_eq (names : List String) : firstOccurrences names = firsts id names := by
  induction names using List.reverseRecOn with
  | nil => rfl
  | append_singleton names name ih =>
    have last : firstOccurrences (names ++ [name]) =
        if (firstOccurrences names).contains name then firstOccurrences names
        else firstOccurrences names ++ [name] := by
      rw [firstOccurrences, List.foldl_append]
      rfl
    rw [last, firsts_id_concat, ih]
    simp only [List.contains_iff_mem, mem_firsts_id]

theorem mem_firstOccurrences {names : List String} :
    name ∈ firstOccurrences names ↔ name ∈ names := by
  rw [firstOccurrences_eq, mem_firsts_id]

end Registry

namespace Topology

variable {t : Topology}

theorem hasAccount_iff {name : String} :
    t.hasAccount name = true ↔ ∃ a ∈ t.accounts, a.name = name := by
  simp [hasAccount]

/-- The members of the organization are those that have an id. -/
theorem accountId?_isSome {name : String} :
    (t.registry.accountId? name).isSome = true ↔ t.hasAccount name = true := by
  rw [hasAccount_iff]
  exact (Registry.lists_ofAccounts t.accounts).accountId?_isSome

theorem hasAccount_of_accountsIn {name unit : String} (h : name ∈ t.registry.accountsIn unit) :
    t.hasAccount name = true := by
  obtain ⟨a, ha, rfl⟩ := List.mem_map.mp h
  have listed := (Registry.lists_ofAccounts t.accounts).listed a (List.mem_filter.mp ha).1
  exact hasAccount_iff.mpr ⟨a, listed, rfl⟩

/-! ## VPCs -/

/-- What is looked at in a VPC: its placement, its routes and its attachments. -/
theorem Faultless.vpc_faults (h : t.Faultless) {v : Vpc} (hv : v ∈ t.network.vpcs) :
    t.placementFaults v = [] ∧
      (∀ table ∈ v.routeTables, ∀ r ∈ table.routes, vpcRouteFaults v r = []) ∧
      ∀ a ∈ v.attachments, t.vpcAttachmentFaults v a = [] := by
  obtain ⟨placed, -, -, routes, attachments⟩ := (vpcFaults_eq_nil_iff.mp h.vpcs).2 v hv
  exact ⟨placed, routes, attachments⟩

/-- A VPC is placed in a member. -/
theorem Faultless.hasAccount_of_single (h : t.Faultless) {v : Vpc} (hv : v ∈ t.network.vpcs)
    {account : String} (placed : v.placement = .single account) :
    t.hasAccount account = true := by
  have none := (h.vpc_faults hv).1
  rw [placementFaults, placed] at none
  exact orFault_eq_nil.mp none

/-- A choice of accounts has members only, also where it excludes them. -/
theorem Faultless.hasAccount_of_targets (h : t.Faultless) {v : Vpc} (hv : v ∈ t.network.vpcs)
    {choice : Targets} (placed : v.placement = .targets choice) {account : String}
    (listed : account ∈ choice.accounts ++ choice.excludedAccounts) :
    t.hasAccount account = true := by
  have none := (h.vpc_faults hv).1
  rw [placementFaults, placed] at none
  exact orFault_eq_nil.mp
    (List.flatMap_eq_nil_iff.mp (List.append_eq_nil_iff.mp none).2 account listed)

/-- A VPC is deployed to members only. -/
theorem Faultless.hasAccount_of_deployed (h : t.Faultless) {v : Vpc} (hv : v ∈ t.network.vpcs)
    {account : String} (deployed : account ∈ t.registry.vpcAccounts v) :
    t.hasAccount account = true := by
  unfold Registry.vpcAccounts at deployed
  cases placed : v.placement with
  | single only =>
    rw [placed] at deployed
    rw [List.mem_singleton.mp deployed]
    exact h.hasAccount_of_single hv placed
  | targets choice =>
    rw [placed] at deployed
    have chosen := (List.mem_filter.mp (Registry.mem_firstOccurrences.mp deployed)).1
    rcases List.mem_append.mp chosen with named | member
    · exact h.hasAccount_of_targets hv placed (List.mem_append_left _ named)
    · obtain ⟨unit, -, there⟩ := List.mem_flatMap.mp member
      exact hasAccount_of_accountsIn there

theorem vpc?_some {name : String} {v : Vpc} (h : t.vpc? name = some v) :
    v ∈ t.network.vpcs ∧ v.name = name := by
  unfold vpc? at h
  have named := List.find?_some h
  exact ⟨List.mem_of_find?_eq_some h, beq_iff_eq.mp named⟩

theorem prefixList?_some {name : String} {l : PrefixList} (h : t.prefixList? name = some l) :
    l ∈ t.network.prefixLists ∧ l.name = name := by
  unfold prefixList? at h
  have named := List.find?_some h
  exact ⟨List.mem_of_find?_eq_some h, beq_iff_eq.mp named⟩

theorem resolverRule?_some {name : String} {rule : ResolverRule}
    (h : t.resolverRule? name = some rule) :
    rule ∈ t.network.resolverRules ∧ rule.name = name := by
  unfold resolverRule? at h
  have named := List.find?_some h
  exact ⟨List.mem_of_find?_eq_some h, beq_iff_eq.mp named⟩

/-- A peering connects two VPCs that are defined. -/
theorem Faultless.peering_vpcs (h : t.Faultless) {p : VpcPeering}
    (hp : p ∈ t.network.vpcPeerings) :
    ∃ a b : Vpc, p.vpcs = [a.name, b.name] ∧ t.vpc? a.name = some a ∧ t.vpc? b.name = some b := by
  obtain ⟨⟨two, -⟩, known⟩ := (peeringFaults_eq_nil_iff.mp h.peerings).2 p hp
  have defined {name : String} (named : name ∈ p.vpcs) :
      ∃ v : Vpc, v.name = name ∧ t.vpc? name = some v := by
    obtain ⟨v, found⟩ := Option.isSome_iff_exists.mp (known name named)
    exact ⟨v, (vpc?_some found).2, found⟩
  obtain ⟨x, y, names⟩ := List.length_eq_two.mp two
  rw [names] at defined
  obtain ⟨a, rfl, ha⟩ := defined (List.mem_cons_self)
  obtain ⟨b, rfl, hb⟩ := defined (List.mem_cons_of_mem _ (List.mem_singleton_self _))
  exact ⟨a, b, names, ha, hb⟩

/-- The two VPCs of a peering are different. -/
theorem Faultless.peered_apart (h : t.Faultless) {p : VpcPeering}
    (hp : p ∈ t.network.vpcPeerings) {x y : String} (names : p.vpcs = [x, y]) : x ≠ y := by
  have different := ((peeringFaults_eq_nil_iff.mp h.peerings).2 p hp).1.2
  rw [names] at different
  rintro rfl
  simp at different

/-! ## Rules -/

/-- A rule that a VPC lists is defined in the VPC's region, by a member. -/
theorem Faultless.listed_rule (h : t.Faultless) {v : Vpc} (hv : v ∈ t.network.vpcs)
    {name : String} (listed : name ∈ v.resolverRules) :
    ∃ rule, t.resolverRule? name = some rule ∧ rule.region = v.region := by
  have known := (resolverRuleFaults_eq_nil_iff.mp h.resolverRules).2 v hv name listed
  unfold vpcRuleFaults at known
  cases found : t.resolverRule? name with
  | none => simp [found] at known
  | some rule =>
    rw [found] at known
    exact ⟨rule, rfl, beq_iff_eq.mp (orFault_eq_nil.mp known)⟩

theorem Faultless.rule_account (h : t.Faultless) {rule : ResolverRule}
    (defined : rule ∈ t.network.resolverRules) : t.hasAccount rule.account = true :=
  (resolverRuleFaults_eq_nil_iff.mp h.resolverRules).1.2 rule defined

/-! ## Gateways -/

/-- What is looked at in a gateway: its account and its static routes. -/
theorem Faultless.gateway_faults (h : t.Faultless) {g : Gateway}
    (defined : g ∈ t.network.gateways) :
    t.hasAccount g.account = true ∧
      ∀ table ∈ g.routeTables, ∀ r ∈ table.routes, staticRouteFaults g table r = [] := by
  obtain ⟨member, -, routes⟩ := (gatewayFaults_eq_nil_iff.mp h.gateways).2 g defined
  exact ⟨member, routes⟩

/-- A static route without a block names a prefix list. -/
theorem prefixList_of_faultless {g : Gateway} {table : GatewayRouteTable} {r : StaticRoute}
    (none : staticRouteFaults g table r = []) (noBlock : r.destinationCidrBlock = .none) :
    ∃ name, r.destinationPrefixList = some name := by
  unfold staticRouteFaults at none
  rw [noBlock] at none
  cases given : r.destinationPrefixList with
  | none => simp [given] at none
  | some name => exact ⟨name, rfl⟩

/-- A gateway is defined, with some route tables. -/
def Links (t : Topology) (gateway account : String) (tables : List String) : Prop :=
  ∃ g, t.gateway? gateway account = some g ∧ ∀ table ∈ tables, g.hasRouteTable table = true

theorem routeTableFaults_eq_nil {g : Gateway} {subject : Subject} {tables : List String} :
    routeTableFaults g subject tables = [] ↔ ∀ table ∈ tables, g.hasRouteTable table = true := by
  unfold routeTableFaults
  simp only [List.flatMap_eq_nil_iff, orFault_eq_nil]

theorem Faultless.vpcAttachment_links (h : t.Faultless) {v : Vpc} (hv : v ∈ t.network.vpcs)
    {a : VpcAttachment} (ha : a ∈ v.attachments) :
    t.Links a.gateway.name a.gateway.account (a.associations ++ a.propagations) := by
  obtain ⟨g, found, none⟩ := gatewayRefFaults_eq_nil ((h.vpc_faults hv).2.2 a ha)
  rw [List.append_eq_nil_iff, routeTableFaults_eq_nil, routeTableFaults_eq_nil] at none
  exact ⟨g, found, List.forall_mem_append.mpr none⟩

theorem Faultless.vpn_links (h : t.Faultless) {c : CustomerGateway} {v : VpnConnection}
    (hc : c ∈ t.network.customerGateways) (hv : v ∈ c.vpnConnections) :
    t.Links v.gateway c.account (v.associations ++ v.propagations) := by
  obtain ⟨g, found, none⟩ := gatewayRefFaults_eq_nil ((h.customerGateway_faults hc).2 v hv)
  rw [List.append_eq_nil_iff, List.append_eq_nil_iff, routeTableFaults_eq_nil,
    routeTableFaults_eq_nil] at none
  exact ⟨g, found, List.forall_mem_append.mpr ⟨none.1.2, none.2⟩⟩

theorem Faultless.directConnect_account (h : t.Faultless) {d : DirectConnectGateway}
    (hd : d ∈ t.network.directConnectGateways) : t.hasAccount d.account = true := by
  have none := List.flatMap_eq_nil_iff.mp h.attachment_faults.2.1 d hd
  exact orFault_eq_nil.mp (List.append_eq_nil_iff.mp none).1

theorem Faultless.directConnect_links (h : t.Faultless) {d : DirectConnectGateway}
    {a : DirectConnectAssociation} (hd : d ∈ t.network.directConnectGateways)
    (ha : a ∈ d.associations) :
    t.Links a.gateway.name a.gateway.account (a.associations ++ a.propagations) := by
  have ofGateway := List.flatMap_eq_nil_iff.mp h.attachment_faults.2.1 d hd
  obtain ⟨g, found, none⟩ := gatewayRefFaults_eq_nil
    (List.flatMap_eq_nil_iff.mp (List.append_eq_nil_iff.mp ofGateway).2 a ha)
  rw [List.append_eq_nil_iff, routeTableFaults_eq_nil, routeTableFaults_eq_nil] at none
  exact ⟨g, found, List.forall_mem_append.mpr none⟩

theorem Faultless.peeringSide_links (h : t.Faultless) {p : GatewayPeering}
    {s : GatewayPeeringSide} (hp : p ∈ t.network.gatewayPeerings) (hs : s ∈ p.sides) :
    t.Links s.gateway s.account s.associations := by
  have ofSide := List.append_eq_nil_iff.mp (h.peeringSide_faults hp hs)
  obtain ⟨g, found, none⟩ := gatewayRefFaults_eq_nil ofSide.2
  rw [List.append_eq_nil_iff, routeTableFaults_eq_nil] at none
  exact ⟨g, found, none.2⟩

/-! ## Attachments -/

/-- An attachment names a gateway that is defined, with its route tables, and is
owned by a member. -/
structure Linked (t : Topology) (a : Attachment) : Prop where
  gateway : t.Links a.gateway a.gatewayAccount (a.associations ++ a.propagations)
  owner : t.hasAccount a.owner.account = true

theorem Linked.gateway_account (faultless : t.Faultless) {a : Attachment} (h : t.Linked a) :
    t.hasAccount a.gatewayAccount = true := by
  obtain ⟨g, found, -⟩ := h.gateway
  obtain ⟨defined, -, account⟩ := gateway?_some found
  rw [← account]
  exact (faultless.gateway_faults defined).1

/-- What is linked under the name by which a gateway was looked up is linked
under the gateway's own name. -/
theorem Links.of_found {g : Gateway} {gateway account : String} {tables : List String}
    (found : t.gateway? gateway account = some g) (h : t.Links gateway account tables) :
    t.Links g.name g.account tables := by
  obtain ⟨-, name, account⟩ := gateway?_some found
  rwa [name, account]

theorem collectOk_eq_error {ε α : Type} {e : ε} :
    ∀ {rs : List (Except ε α)}, collectOk rs = .error e → .error e ∈ rs
  | .error e' :: rest, h => by
    cases h
    exact List.mem_cons_self
  | .ok a :: rest, h => by
    cases collected : collectOk rest with
    | ok as => simp [collectOk, collected, Except.map] at h
    | error e' =>
      simp only [collectOk, collected, Except.map, Except.error.injEq] at h
      exact List.mem_cons_of_mem _ (h ▸ collectOk_eq_error collected)

theorem Links.requireGateway {gateway account : String} {tables : List String}
    (h : t.Links gateway account tables) (scope : Scope) :
    ∃ g, t.gateway? gateway account = some g ∧ t.requireGateway gateway account scope = .ok g := by
  obtain ⟨g, found, -⟩ := h
  exact ⟨g, found, by rw [Topology.requireGateway, found]⟩

/-- A VPC that is deployed is attached to a gateway of another region, so that
the attachment cannot be described. -/
inductive Misplaced (t : Topology) : Misconfiguration → Prop
  | intro {v : Vpc} {account : String} {a : VpcAttachment} {g : Gateway}
      (defined : v ∈ t.network.vpcs) (deployed : account ∈ t.registry.vpcAccounts v)
      (attached : a ∈ v.attachments)
      (gateway : t.gateway? a.gateway.name a.gateway.account = some g)
      (elsewhere : g.region ≠ v.region) :
      Misplaced t (.gatewayInOtherRegion g.name g.account v.name v.region g.region)

section Described

variable {scope : Scope} (faultless : t.Faultless)
include faultless

/-- Every attachment that is described is linked. -/
theorem Faultless.linked {ds : List Attachment}
    (described : t.attachments t.registry scope = .ok ds) {d : Attachment} (hd : d ∈ ds) :
    t.Linked d := by
  cases workedOut_of_described described hd with
  | vpc defined deployed attached made =>
    obtain ⟨g, found, h⟩ := requireGateway_bind_ok made
    have owner := faultless.hasAccount_of_deployed defined deployed
    split at h
    · cases h
      exact ⟨(faultless.vpcAttachment_links defined attached).of_found found, owner⟩
    · cases h
  | vpn defined connected made =>
    obtain ⟨g, found, h⟩ := requireGateway_bind_ok made
    cases h
    exact ⟨(faultless.vpn_links defined connected).of_found found,
      (faultless.customerGateway_faults defined).1⟩
  | directConnect defined associated made =>
    obtain ⟨g, found, h⟩ := requireGateway_bind_ok made
    cases h
    exact ⟨(faultless.directConnect_links defined associated).of_found found,
      (faultless.gateway_faults (gateway?_some found).1).1⟩
  | @peering p side defined sided made =>
    obtain ⟨g, found, h⟩ := requireGateway_bind_ok made
    cases h
    have owner := orFault_eq_nil.mp
      (List.append_eq_nil_iff.mp (faultless.peeringSide_faults defined sided)).1
    have links : t.Links g.name g.account (side.associations ++ []) := by
      rw [List.append_nil]
      exact (faultless.peeringSide_links defined sided).of_found found
    exact ⟨links, owner⟩

/-- There is one reason for which the attachments are not described. -/
theorem Faultless.attachments_error {e : PlanError}
    (h : t.attachments t.registry scope = .error e) :
    ∃ fault, e = .misconfigured fault scope ∧ t.Misplaced fault := by
  cases workedOut_of_mem (collectOk_eq_error h) with
  | vpc defined deployed attached made =>
    obtain ⟨g, found, required⟩ :=
      (faultless.vpcAttachment_links defined attached).requireGateway scope
    simp only [vpcAttachment, required, bind, Except.bind] at made
    split at made
    · cases made
    · next elsewhere =>
      cases made
      exact ⟨_, rfl, .intro defined deployed attached found elsewhere⟩
  | vpn defined connected made =>
    obtain ⟨g, -, required⟩ := (faultless.vpn_links defined connected).requireGateway scope
    simp [vpnAttachment, required, bind, Except.bind, pure, Except.pure] at made
  | directConnect defined associated made =>
    obtain ⟨g, -, required⟩ :=
      (faultless.directConnect_links defined associated).requireGateway scope
    simp [directConnectAttachment, required, bind, Except.bind, pure, Except.pure] at made
  | peering defined sided made =>
    obtain ⟨g, -, required⟩ := (faultless.peeringSide_links defined sided).requireGateway scope
    simp [peeringAttachment, required, bind, Except.bind, pure, Except.pure] at made

end Described

end Topology

end Interlink
