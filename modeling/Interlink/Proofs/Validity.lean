import Interlink.Topology.Validation
import Mathlib.Data.List.Nodup

/-!
# What a valid topology satisfies

A topology is valid if no validator finds a fault. Each validator is opened
once: it finds nothing if and only if some keys do not repeat and a condition
holds of every element, in whatever order they stand. So the empty lists of
faults are read back as facts about the description: names that do not repeat,
references that lead somewhere, and the region of whatever is attached to a
gateway. Later modules use these facts and never look at a validator.
-/

namespace Interlink

/-! ## Parts of a validator -/

theorem orFault_eq_nil {ε : Type} {condition : Bool} {fault : ε} :
    orFault condition fault = [] ↔ condition = true := by
  cases condition <;> simp [orFault]

theorem forall_withEarlierFrom {α : Type} {P : α → Prop} : ∀ (earlier : List α) {as : List α},
    (∀ p ∈ withEarlierFrom earlier as, P p.2) ↔ ∀ a ∈ as, P a
  | _, [] => by simp [withEarlierFrom]
  | earlier, a :: rest => by
    rw [withEarlierFrom, List.forall_mem_cons, List.forall_mem_cons, forall_withEarlierFrom]

/-- A validator that looks for what is new in every element, and at the element alone. -/
theorem flatMap_withEarlier_eq_nil_iff {ε α : Type} {faults : List α × α → List ε}
    {new : List α × α → Prop} {own : α → Prop} {as : List α}
    (shape : ∀ p, faults p = [] ↔ new p ∧ own p.2) :
    (withEarlier as).flatMap faults = [] ↔ (∀ p ∈ withEarlier as, new p) ∧ ∀ a ∈ as, own a := by
  simp only [List.flatMap_eq_nil_iff, shape, forall_and, withEarlier, forall_withEarlierFrom]

theorem nodup_flatMap_iff_from {α κ : Type} {keys : α → List κ} :
    ∀ (earlier : List α) {as : List α}, ((earlier ++ as).flatMap keys).Nodup ↔
      (earlier.flatMap keys).Nodup ∧ ∀ p ∈ withEarlierFrom earlier as,
        (keys p.2).Nodup ∧ ∀ k ∈ keys p.2, k ∉ p.1.flatMap keys
  | earlier, [] => by simp [withEarlierFrom]
  | earlier, a :: rest => by
    have split : earlier ++ a :: rest = (earlier ++ [a]) ++ rest := by simp
    rw [split, nodup_flatMap_iff_from, List.flatMap_append, List.flatMap_singleton,
      List.nodup_append', withEarlierFrom, List.forall_mem_cons, List.disjoint_right]
    simp only [and_assoc]

/-- Keys do not repeat if and only if none of an element repeats, or stands among those of the
element's earlier elements. -/
theorem nodup_flatMap_iff {α κ : Type} {keys : α → List κ} {as : List α} :
    (as.flatMap keys).Nodup ↔
      ∀ p ∈ withEarlier as, (keys p.2).Nodup ∧ ∀ k ∈ keys p.2, k ∉ p.1.flatMap keys := by
  rw [← List.nil_append as, nodup_flatMap_iff_from, List.nil_append]
  exact and_iff_right List.nodup_nil

/-- The same where every element has one key. -/
theorem nodup_map_iff {α κ : Type} {key : α → κ} {as : List α} :
    (as.map key).Nodup ↔ ∀ p ∈ withEarlier as, key p.2 ∉ p.1.map key := by
  simp only [List.map_eq_flatMap, nodup_flatMap_iff, List.nodup_singleton, List.mem_singleton,
    forall_eq, true_and]

theorem orRepeated_eq_nil {ε α κ : Type} [BEq κ] [LawfulBEq κ] {key : α → κ}
    {earlier : List α} {a : α} {fault : ε} :
    orRepeated key earlier a fault = [] ↔ key a ∉ earlier.map key := by
  unfold orRepeated
  rw [orFault_eq_nil, Bool.not_eq_true', List.contains_eq_mem]
  exact decide_eq_false_iff_not

namespace Topology

variable {t : Topology}

/-! ## When a validator finds nothing -/

/-- Names and ids of accounts do not repeat, names are not empty, and ids have the form of one. -/
theorem accountFaults_eq_nil_iff {accounts : List Account} : accountFaults accounts = [] ↔
    ((accounts.map (·.name)).Nodup ∧ (accounts.map (·.id)).Nodup) ∧
    ∀ a ∈ accounts, a.name ≠ "" ∧ isAccountId a.id = true := by
  rw [nodup_map_iff, nodup_map_iff, ← forall₂_and]
  refine flatMap_withEarlier_eq_nil_iff ?_
  rintro ⟨earlier, a⟩
  simp only [List.append_eq_nil_iff, orFault_eq_nil, orRepeated_eq_nil, bne_iff_ne]
  tauto

theorem gatewayFaults_eq_nil_iff : t.gatewayFaults = [] ↔
    ((t.network.gateways.map fun g => (g.name, g.account)).Nodup ∧
      (t.network.gateways.map fun g => (g.name, g.region)).Nodup) ∧
    ∀ g ∈ t.network.gateways, t.hasAccount g.account = true ∧ (g.routeTables.map (·.name)).Nodup ∧
      ∀ table ∈ g.routeTables, ∀ r ∈ table.routes, staticRouteFaults g table r = [] := by
  rw [nodup_map_iff, nodup_map_iff, ← forall₂_and]
  refine flatMap_withEarlier_eq_nil_iff ?_
  rintro ⟨earlier, g⟩
  have tables : ((withEarlier g.routeTables).flatMap fun p =>
      orRepeated (·.name) p.1 p.2 (.repeatedRouteTable g.name p.2.name) ++
        p.2.routes.flatMap (staticRouteFaults g p.2)) = [] ↔
      (g.routeTables.map (·.name)).Nodup ∧
        ∀ table ∈ g.routeTables, ∀ r ∈ table.routes, staticRouteFaults g table r = [] := by
    rw [nodup_map_iff]
    refine flatMap_withEarlier_eq_nil_iff fun p => ?_
    rw [List.append_eq_nil_iff, orRepeated_eq_nil, List.flatMap_eq_nil_iff]
  simp only [List.append_eq_nil_iff, orFault_eq_nil, orRepeated_eq_nil]
  refine (and_congr_right' tables).trans ?_
  tauto

theorem vpcFaults_eq_nil_iff : t.vpcFaults = [] ↔ (t.network.vpcs.map (·.name)).Nodup ∧
    ∀ v ∈ t.network.vpcs, t.placementFaults v = [] ∧
      (v.cidrs.isEmpty = false ∨ v.ipamPool.isSome = true) ∧
      (∀ block ∈ v.cidrs, Cidr.valid block = true) ∧
      (∀ table ∈ v.routeTables, ∀ r ∈ table.routes, vpcRouteFaults v r = []) ∧
      ∀ a ∈ v.attachments, t.vpcAttachmentFaults v a = [] := by
  rw [nodup_map_iff]
  refine flatMap_withEarlier_eq_nil_iff ?_
  rintro ⟨earlier, v⟩
  simp only [List.append_eq_nil_iff, List.flatMap_eq_nil_iff, orFault_eq_nil, orRepeated_eq_nil,
    Bool.or_eq_true, Bool.not_eq_true', and_assoc]

/-- A peering is one of two different VPCs. -/
theorem peered_eq_nil_iff {p : VpcPeering} :
    (match p.vpcs with
      | [a, b] => orFault (a != b) (.peeredWithItself p.name a)
      | _ => [NetworkFault.notTwoVpcs p.name p.vpcs.length]) = [] ↔
      p.vpcs.length = 2 ∧ p.vpcs.Nodup := by
  split
  · next a b names => simp [names, orFault_eq_nil]
  · next other =>
    refine iff_of_false (List.cons_ne_nil _ _) fun two => ?_
    obtain ⟨a, b, names⟩ := List.length_eq_two.mp two.1
    exact other a b names

theorem peeringFaults_eq_nil_iff : t.peeringFaults = [] ↔
    (t.network.vpcPeerings.map (·.name)).Nodup ∧
    ∀ p ∈ t.network.vpcPeerings, (p.vpcs.length = 2 ∧ p.vpcs.Nodup) ∧
      ∀ v ∈ p.vpcs, (t.vpc? v).isSome = true := by
  rw [nodup_map_iff]
  refine flatMap_withEarlier_eq_nil_iff ?_
  rintro ⟨earlier, p⟩
  simp only [List.append_eq_nil_iff, List.flatMap_eq_nil_iff, orFault_eq_nil, orRepeated_eq_nil,
    and_assoc]
  refine and_congr_right fun _ => ?_
  rw [← and_assoc]
  exact and_congr_left fun _ => peered_eq_nil_iff

theorem customerGatewayFaults_eq_nil_iff : t.customerGatewayFaults = [] ↔
    (t.network.customerGateways.flatMap vpnKeys).Nodup ∧
    ∀ c ∈ t.network.customerGateways, t.hasAccount c.account = true ∧
      ∀ v ∈ c.vpnConnections, t.vpnFaults c v = [] := by
  rw [nodup_flatMap_iff]
  refine flatMap_withEarlier_eq_nil_iff ?_
  rintro ⟨earlier, c⟩
  have keys : (vpnKeys c).Nodup ↔ (c.vpnConnections.map (·.name)).Nodup := by
    have pairs : vpnKeys c = (c.vpnConnections.map (·.name)).map (·, c.account) := by
      rw [List.map_map]
      rfl
    rw [pairs]
    exact List.nodup_map_iff fun _ _ same => (Prod.mk.inj same).1
  have connections : ((withEarlier c.vpnConnections).flatMap fun p =>
      orFault
        (!((earlier.flatMap vpnKeys).contains (p.2.name, c.account) ||
          (p.1.map (·.name)).contains p.2.name))
        (.repeatedVpn p.2.name c.account) ++ t.vpnFaults c p.2) = [] ↔
      (c.vpnConnections.map (·.name)).Nodup ∧
        ∀ v ∈ c.vpnConnections,
          (v.name, c.account) ∉ earlier.flatMap vpnKeys ∧ t.vpnFaults c v = [] := by
    rw [nodup_map_iff]
    refine flatMap_withEarlier_eq_nil_iff fun p => ?_
    rw [List.append_eq_nil_iff, orFault_eq_nil, Bool.not_eq_true', Bool.or_eq_false_iff,
      List.contains_eq_mem, List.contains_eq_mem, decide_eq_false_iff_not,
      decide_eq_false_iff_not]
    tauto
  have fresh : (∀ k ∈ vpnKeys c, k ∉ earlier.flatMap vpnKeys) ↔
      ∀ v ∈ c.vpnConnections, (v.name, c.account) ∉ earlier.flatMap vpnKeys :=
    List.forall_mem_map
  rw [List.append_eq_nil_iff, orFault_eq_nil, keys, fresh]
  refine (and_congr_right' connections).trans ?_
  simp only [forall_and]
  tauto

theorem gatewayPeeringFaults_eq_nil_iff : t.gatewayPeeringFaults = [] ↔
    (t.network.gatewayPeerings.map (·.name)).Nodup ∧
    ∀ p ∈ t.network.gatewayPeerings, (∀ s ∈ p.sides, t.gatewayPeeringSideFaults p s = []) ∧
      (p.requester.gateway ≠ p.accepter.gateway ∨ p.requester.account ≠ p.accepter.account) := by
  rw [nodup_map_iff]
  refine flatMap_withEarlier_eq_nil_iff ?_
  rintro ⟨earlier, p⟩
  simp only [List.append_eq_nil_iff, List.flatMap_eq_nil_iff, orFault_eq_nil, orRepeated_eq_nil,
    Bool.or_eq_true, bne_iff_ne, and_assoc]

theorem resolverRuleFaults_eq_nil_iff : t.resolverRuleFaults = [] ↔
    ((t.network.resolverRules.map (·.name)).Nodup ∧
      ∀ r ∈ t.network.resolverRules, t.hasAccount r.account = true) ∧
    ∀ v ∈ t.network.vpcs, ∀ name ∈ v.resolverRules, t.vpcRuleFaults v name = [] := by
  unfold resolverRuleFaults
  rw [List.append_eq_nil_iff, nodup_map_iff]
  refine and_congr (flatMap_withEarlier_eq_nil_iff ?_) ?_
  · rintro ⟨earlier, r⟩
    rw [List.append_eq_nil_iff, orRepeated_eq_nil, orFault_eq_nil]
  · simp only [List.flatMap_eq_nil_iff]

/-! ## Valid topologies -/

/-- No validator finds a fault. -/
structure Faultless (t : Topology) : Prop where
  settings : t.settingsFaults = []
  accounts : accountFaults t.accounts = []
  gateways : t.gatewayFaults = []
  vpcs : t.vpcFaults = []
  peerings : t.peeringFaults = []
  attachments : t.attachmentFaults = []
  resolverRules : t.resolverRuleFaults = []

theorem faultless_of_validate (valid : t.validate = .ok ()) : t.Faultless := by
  have none := (validate_eq_ok_iff t).mp valid
  simp only [faults, networkFaults, List.append_eq_nil_iff, List.map_eq_nil_iff] at none
  obtain ⟨⟨settings, accounts⟩, ⟨⟨⟨gateways, vpcs⟩, peerings⟩, attachments⟩, rules⟩ := none
  exact ⟨settings, accounts, gateways, vpcs, peerings, attachments, rules⟩

/-! ## A topology to look at -/

/-- Two accounts in one region. The one has a gateway and shares a rule; a VPC of
the other is attached to the gateway and peered with a VPC of the first. -/
def sample : Topology where
  settings := { homeRegion := "eu-west-1" }
  accounts :=
    [{ name := "Network", id := "111111111111", organizationalUnit := none },
      { name := "Workload", id := "222222222222", organizationalUnit := none }]
  network :=
    { gateways :=
        [{ name := "Core", account := "Network", region := "us-east-1"
           routeTables := [{ name := "hub" }, { name := "spokes" }] }]
      vpcs :=
        [{ name := "App", region := "us-east-1", placement := .single "Workload"
           cidrs := ["10.0.0.0/16"], ipamPool := none
           routeTables :=
             [{ name := "private"
                routes :=
                  [{ name := "shared", type := .vpcPeering, destination := some "10.1.0.0/24"
                     destinationPrefixList := none, ipv6Destination := none
                     target := some "AppShared" }] }]
           attachments :=
             [{ name := "App-Core", gateway := ⟨"Core", "Network"⟩
                associations := ["spokes"], propagations := ["hub"] }]
           resolverRules := ["corp"] },
          { name := "Shared", region := "us-east-1", placement := .single "Network"
            cidrs := ["10.1.0.0/16"], ipamPool := none
            routeTables :=
              [{ name := "main"
                 routes :=
                   [{ name := "app", type := .vpcPeering, destination := none
                      destinationPrefixList := none, ipv6Destination := none
                      target := some "AppShared" }] }] }]
      vpcPeerings := [{ name := "AppShared", vpcs := ["App", "Shared"] }]
      resolverRules := [{ name := "corp", account := "Network", region := "us-east-1" }] }

theorem sample_valid : sample.validate = .ok () := rfl

/-! ## Gateways -/

/-- The gateway that is found has the name and the account it was looked up
by. -/
theorem gateway?_some {name account : String} {g : Gateway}
    (h : t.gateway? name account = some g) :
    g ∈ t.network.gateways ∧ g.name = name ∧ g.account = account := by
  have hp := List.find?_some h
  simp only [Bool.and_eq_true, beq_iff_eq] at hp
  exact ⟨List.mem_of_find?_eq_some h, hp⟩

/-- Names of gateways do not repeat inside a region. -/
theorem Faultless.gateway_names_nodup (h : t.Faultless) :
    (t.network.gateways.map fun g => (g.name, g.region)).Nodup :=
  (gatewayFaults_eq_nil_iff.mp h.gateways).1.2

/-- Two gateways of one name in one region are the same. -/
theorem Faultless.gateway_eq (h : t.Faultless) {g g' : Gateway} (hg : g ∈ t.network.gateways)
    (hg' : g' ∈ t.network.gateways) (name : g.name = g'.name) (region : g.region = g'.region) :
    g = g' :=
  List.inj_on_of_nodup_map h.gateway_names_nodup hg hg' (Prod.ext name region)

/-- Names of gateways do not repeat inside an account. -/
theorem Faultless.gateway_accounts_nodup (h : t.Faultless) :
    (t.network.gateways.map fun g => (g.name, g.account)).Nodup :=
  (gatewayFaults_eq_nil_iff.mp h.gateways).1.1

/-- Two gateways of one name in one account are the same. -/
theorem Faultless.gateway_eq_of_account (h : t.Faultless) {g g' : Gateway}
    (hg : g ∈ t.network.gateways) (hg' : g' ∈ t.network.gateways) (name : g.name = g'.name)
    (account : g.account = g'.account) : g = g' :=
  List.inj_on_of_nodup_map h.gateway_accounts_nodup hg hg' (Prod.ext name account)

/-- What follows from a reference to a gateway without faults: the gateway is
there, and it has no further faults. -/
theorem gatewayRefFaults_eq_nil {subject : Subject} {name account : String}
    {further : Gateway → List NetworkFault}
    (h : t.gatewayRefFaults subject name account further = []) :
    ∃ g, t.gateway? name account = some g ∧ further g = [] := by
  unfold gatewayRefFaults at h
  cases found : t.gateway? name account with
  | none => simp [found] at h
  | some g =>
    rw [found] at h
    exact ⟨g, rfl, h⟩

/-! ## What is attached to gateways -/

/-- What is attached is looked at in three parts. -/
theorem Faultless.attachment_faults (h : t.Faultless) :
    t.customerGatewayFaults = [] ∧ t.directConnectFaults = [] ∧ t.gatewayPeeringFaults = [] := by
  have none := h.attachments
  simp only [attachmentFaults, List.append_eq_nil_iff] at none
  exact ⟨none.1.1, none.1.2, none.2⟩

/-- What is looked at in a customer gateway: its account and its VPN connections. -/
theorem Faultless.customerGateway_faults (h : t.Faultless) {c : CustomerGateway}
    (hc : c ∈ t.network.customerGateways) :
    t.hasAccount c.account = true ∧ ∀ v ∈ c.vpnConnections, t.vpnFaults c v = [] :=
  (customerGatewayFaults_eq_nil_iff.mp h.attachment_faults.1).2 c hc

/-- Names of VPN connections do not repeat inside an account. -/
theorem Faultless.vpnKeys_nodup (h : t.Faultless) :
    (t.network.customerGateways.flatMap vpnKeys).Nodup :=
  (customerGatewayFaults_eq_nil_iff.mp h.attachment_faults.1).1

/-- Two VPN connections of one name in one account are the same. -/
theorem Faultless.vpn_eq (h : t.Faultless) {c c' : CustomerGateway} {v v' : VpnConnection}
    (hc : c ∈ t.network.customerGateways) (hv : v ∈ c.vpnConnections)
    (hc' : c' ∈ t.network.customerGateways) (hv' : v' ∈ c'.vpnConnections)
    (name : v.name = v'.name) (account : c.account = c'.account) : c = c' ∧ v = v' := by
  let all := t.network.customerGateways.flatMap fun c => c.vpnConnections.map fun v => (c, v)
  have distinct : (all.map fun (c, v) => (v.name, c.account)).Nodup := by
    have same : (all.map fun (c, v) => (v.name, c.account)) =
        t.network.customerGateways.flatMap vpnKeys := by
      simp only [all, List.map_flatMap, List.map_map]
      rfl
    rw [same]
    exact h.vpnKeys_nodup
  have mem {c : CustomerGateway} {v : VpnConnection} (hc : c ∈ t.network.customerGateways)
      (hv : v ∈ c.vpnConnections) : (c, v) ∈ all :=
    List.mem_flatMap.mpr ⟨c, hc, List.mem_map_of_mem hv⟩
  have same := List.inj_on_of_nodup_map distinct (mem hc hv) (mem hc' hv')
    (Prod.ext name account)
  exact Prod.mk.inj same

/-- A VPN connection ends in the region of its customer gateway. -/
theorem Faultless.vpn_region (h : t.Faultless) {c : CustomerGateway} {v : VpnConnection}
    {g : Gateway} (hc : c ∈ t.network.customerGateways) (hv : v ∈ c.vpnConnections)
    (found : t.gateway? v.gateway c.account = some g) : g.region = c.region := by
  obtain ⟨g', found', none⟩ := gatewayRefFaults_eq_nil ((h.customerGateway_faults hc).2 v hv)
  cases found.symm.trans found'
  simp only [List.append_eq_nil_iff] at none
  exact beq_iff_eq.mp (orFault_eq_nil.mp none.1.1)

/-- What is looked at in a side of a peering of gateways. -/
theorem Faultless.peeringSide_faults (h : t.Faultless) {p : GatewayPeering}
    {s : GatewayPeeringSide} (hp : p ∈ t.network.gatewayPeerings) (hs : s ∈ p.sides) :
    t.gatewayPeeringSideFaults p s = [] :=
  ((gatewayPeeringFaults_eq_nil_iff.mp h.attachment_faults.2.2).2 p hp).1 s hs

/-- A side of a peering of gateways is in the region of its gateway. -/
theorem Faultless.peeringSide_region (h : t.Faultless) {p : GatewayPeering}
    {s : GatewayPeeringSide} {g : Gateway} (hp : p ∈ t.network.gatewayPeerings)
    (hs : s ∈ p.sides) (found : t.gateway? s.gateway s.account = some g) :
    g.region = s.region := by
  have ofSide := h.peeringSide_faults hp hs
  obtain ⟨g', found', none⟩ := gatewayRefFaults_eq_nil (List.append_eq_nil_iff.mp ofSide).2
  cases found.symm.trans found'
  exact beq_iff_eq.mp (orFault_eq_nil.mp (List.append_eq_nil_iff.mp none).1)

end Topology

end Interlink
