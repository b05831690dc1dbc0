import Interlink.Proofs.Consistency
import Interlink.Proofs.MapContents
import Interlink.Proofs.Misconfigurations

/-!
# Which names validation looks up

A topology refers to its parts by name. In most positions validation looks the name up, so
that it is defined in every topology that is accepted (`Topology.Verified`,
`defines_of_verified`). In a few it does not (`Topology.Deferred`): of a route over a peering it
asks only that some target is given, and prefix lists and the targets of static routes are left
to the units that need them. `mentions_undefined` is an accepted topology in which all of these
lead nowhere.

A unit looks up what it needs when it is planned. So whenever a plan comes about, the prefix
lists that its routes name are defined and deployed where the routes are, and the target of
every static route is one attachment of the gateway (`Topology.Settles`,
`references_of_valid`).
-/

namespace Interlink

open UnitMap

/-! ## Mentions -/

/-- What a topology mentions by name. -/
inductive Mention
  | account (name : String)
  | gateway (name account : String)
  | routeTable (gateway account table : String)
  | vpc (name : String)
  | resolverRule (name : String)
  | prefixList (name : String)
  /-- A peering that connects a VPC. -/
  | peering (name vpc : String)
  /-- Something that is attached to a gateway. -/
  | child (g : Gateway) (target : RouteTarget)
deriving DecidableEq, Repr

namespace Topology

/-- What is mentioned is there. -/
def Defines (t : Topology) : Mention → Prop
  | .account name => ∃ a ∈ t.accounts, a.name = name
  | .gateway name account => ∃ g ∈ t.network.gateways, g.name = name ∧ g.account = account
  | .routeTable gateway account table =>
    ∃ g ∈ t.network.gateways, g.name = gateway ∧ g.account = account ∧
      ∃ defined ∈ g.routeTables, defined.name = table
  | .vpc name => ∃ v ∈ t.network.vpcs, v.name = name
  | .resolverRule name => ∃ rule ∈ t.network.resolverRules, rule.name = name
  | .prefixList name => ∃ l ∈ t.network.prefixLists, l.name = name
  | .peering name vpc => ∃ p ∈ t.network.vpcPeerings, p.name = name ∧ vpc ∈ p.vpcs
  | .child g target =>
    ∃ scope d, .ok d ∈ t.attachmentResults t.registry scope ∧ isTarget g target d = true

/-- An account in which something is placed. -/
inductive PlacesIn (t : Topology) : String → Prop
  | gateway {g : Gateway} (defined : g ∈ t.network.gateways) : PlacesIn t g.account
  | vpc {v : Vpc} {account : String} (defined : v ∈ t.network.vpcs)
      (placed : v.placement = .single account) : PlacesIn t account
  | targets {v : Vpc} {choice : Targets} {account : String} (defined : v ∈ t.network.vpcs)
      (placed : v.placement = .targets choice)
      (listed : account ∈ choice.accounts ++ choice.excludedAccounts) : PlacesIn t account
  | customerGateway {c : CustomerGateway} (defined : c ∈ t.network.customerGateways) :
      PlacesIn t c.account
  | directConnectGateway {d : DirectConnectGateway}
      (defined : d ∈ t.network.directConnectGateways) : PlacesIn t d.account
  | peeringSide {p : GatewayPeering} {s : GatewayPeeringSide}
      (defined : p ∈ t.network.gatewayPeerings) (side : s ∈ p.sides) : PlacesIn t s.account
  | resolverRule {rule : ResolverRule} (defined : rule ∈ t.network.resolverRules) :
      PlacesIn t rule.account

/-- A gateway that something is attached to, and the route tables that are named with it. -/
inductive AttachesTo (t : Topology) : String → String → List String → Prop
  | vpc {v : Vpc} {a : VpcAttachment} (defined : v ∈ t.network.vpcs)
      (attached : a ∈ v.attachments) :
      AttachesTo t a.gateway.name a.gateway.account (a.associations ++ a.propagations)
  | vpn {c : CustomerGateway} {v : VpnConnection} (defined : c ∈ t.network.customerGateways)
      (connected : v ∈ c.vpnConnections) :
      AttachesTo t v.gateway c.account (v.associations ++ v.propagations)
  | directConnect {d : DirectConnectGateway} {a : DirectConnectAssociation}
      (defined : d ∈ t.network.directConnectGateways) (associated : a ∈ d.associations) :
      AttachesTo t a.gateway.name a.gateway.account (a.associations ++ a.propagations)
  | peering {p : GatewayPeering} {s : GatewayPeeringSide}
      (defined : p ∈ t.network.gatewayPeerings) (side : s ∈ p.sides) :
      AttachesTo t s.gateway s.account s.associations

/-- A mention in a position that validation looks at. -/
inductive Verified (t : Topology) : Mention → Prop
  | account {name : String} (places : t.PlacesIn name) : Verified t (.account name)
  | gateway {name account : String} {tables : List String}
      (attaches : t.AttachesTo name account tables) : Verified t (.gateway name account)
  | routeTable {gateway account table : String} {tables : List String}
      (attaches : t.AttachesTo gateway account tables) (named : table ∈ tables) :
      Verified t (.routeTable gateway account table)
  | vpc {p : VpcPeering} {name : String} (defined : p ∈ t.network.vpcPeerings)
      (connected : name ∈ p.vpcs) : Verified t (.vpc name)
  | resolverRule {v : Vpc} {name : String} (defined : v ∈ t.network.vpcs)
      (listed : name ∈ v.resolverRules) : Verified t (.resolverRule name)

/-- A route of a VPC. -/
def WritesInVpc (t : Topology) (v : Vpc) (r : VpcRoute) : Prop :=
  v ∈ t.network.vpcs ∧ ∃ table ∈ v.routeTables, r ∈ table.routes

/-- A static route of a gateway. -/
def WritesAtGateway (t : Topology) (g : Gateway) (r : StaticRoute) : Prop :=
  g ∈ t.network.gateways ∧ ∃ table ∈ g.routeTables, r ∈ table.routes

/-- A mention in a position that validation does not look at. -/
inductive Deferred (t : Topology) : Mention → Prop
  | account {l : PrefixList} {name : String} (defined : l ∈ t.network.prefixLists)
      (listed : name ∈ l.accounts) : Deferred t (.account name)
  | peering {v : Vpc} {r : VpcRoute} {name : String} (written : t.WritesInVpc v r)
      (peers : r.type = .vpcPeering) (named : r.target = some name) :
      Deferred t (.peering name v.name)
  | vpcRoute {v : Vpc} {r : VpcRoute} {name : String} (written : t.WritesInVpc v r)
      (named : r.destinationPrefixList = some name) : Deferred t (.prefixList name)
  | staticRoute {g : Gateway} {r : StaticRoute} {name : String} (written : t.WritesAtGateway g r)
      (named : r.destinationPrefixList = some name) : Deferred t (.prefixList name)
  | child {g : Gateway} {r : StaticRoute} {target : RouteTarget}
      (written : t.WritesAtGateway g r) (named : r.attachment = some target) :
      Deferred t (.child g target)

/-- A name that a topology mentions. -/
def Mentions (t : Topology) (m : Mention) : Prop := t.Verified m ∨ t.Deferred m

/-! ## What validation finds -/

variable {t : Topology}

/-- What is looked at in a route of a VPC. -/
theorem Faultless.vpcRoute_faults (h : t.Faultless) {v : Vpc} {r : VpcRoute}
    (written : t.WritesInVpc v r) : vpcRouteFaults v r = [] := by
  obtain ⟨hv, table, htable, hr⟩ := written
  exact (h.vpc_faults hv).2.1 table htable r hr

/-- A route over a peering has a target. -/
theorem Faultless.peeringRoute_target (h : t.Faultless) {v : Vpc} {r : VpcRoute}
    (written : t.WritesInVpc v r) (peers : r.type = .vpcPeering) :
    ∃ name, r.target = some name := by
  have none := h.vpcRoute_faults written
  simp only [vpcRouteFaults, List.append_eq_nil_iff] at none
  have given := orFault_eq_nil.mp none.2
  rw [peers] at given
  exact Option.isSome_iff_exists.mp (by simpa using given)

/-- A route that names a prefix list leads there. -/
theorem Faultless.destinationSpec_of_prefixList (h : t.Faultless) {v : Vpc} {r : VpcRoute}
    (written : t.WritesInVpc v r) {name : String} (named : r.destinationPrefixList = some name) :
    r.destinationSpec = .prefixList name := by
  have none := h.vpcRoute_faults written
  simp only [vpcRouteFaults, List.append_eq_nil_iff] at none
  have alone := orFault_eq_nil.mp none.1.1.1
  cases block : r.destination with
  | some block => simp [block, named] at alone
  | none => rw [VpcRoute.destinationSpec, block, named]

/-- What is placed in an account is placed in a member. -/
theorem PlacesIn.hasAccount (faultless : t.Faultless) {name : String} (h : t.PlacesIn name) :
    t.hasAccount name = true := by
  cases h with
  | gateway defined => exact (faultless.gateway_faults defined).1
  | vpc defined placed => exact faultless.hasAccount_of_single defined placed
  | targets defined placed listed => exact faultless.hasAccount_of_targets defined placed listed
  | customerGateway defined => exact (faultless.customerGateway_faults defined).1
  | directConnectGateway defined => exact faultless.directConnect_account defined
  | peeringSide defined side =>
    have ofSide := faultless.peeringSide_faults defined side
    exact orFault_eq_nil.mp (List.append_eq_nil_iff.mp ofSide).1
  | resolverRule defined => exact faultless.rule_account defined

/-- What is attached to a gateway names one that is defined, with its route tables. -/
theorem AttachesTo.links (faultless : t.Faultless) {gateway account : String}
    {tables : List String} (h : t.AttachesTo gateway account tables) :
    t.Links gateway account tables := by
  cases h with
  | vpc defined attached => exact faultless.vpcAttachment_links defined attached
  | vpn defined connected => exact faultless.vpn_links defined connected
  | directConnect defined associated => exact faultless.directConnect_links defined associated
  | peering defined side => exact faultless.peeringSide_links defined side

/-- Whatever a topology without faults mentions where validation looks is defined. -/
theorem defines_of_verified (faultless : t.Faultless) {m : Mention} (h : t.Verified m) :
    t.Defines m := by
  cases h with
  | account places => exact hasAccount_iff.mp (places.hasAccount faultless)
  | gateway attaches =>
    obtain ⟨g, found, -⟩ := attaches.links faultless
    exact ⟨g, gateway?_some found⟩
  | routeTable attaches named =>
    obtain ⟨g, found, known⟩ := attaches.links faultless
    obtain ⟨defined, name, account⟩ := gateway?_some found
    have there := known _ named
    simp only [Gateway.hasRouteTable, List.any_eq_true, beq_iff_eq] at there
    exact ⟨g, defined, name, account, there⟩
  | vpc defined connected =>
    obtain ⟨a, b, names, ha, hb⟩ := faultless.peering_vpcs defined
    rw [names] at connected
    rcases List.mem_cons.mp connected with rfl | connected
    · exact ⟨a, vpc?_some ha⟩
    · rw [List.mem_singleton.mp connected]
      exact ⟨b, vpc?_some hb⟩
  | resolverRule defined listed =>
    obtain ⟨rule, found, -⟩ := faultless.listed_rule defined listed
    exact ⟨rule, resolverRule?_some found⟩

end Topology

/-! ## What a unit looks up -/

/-- A prefix list of a name is deployed to a scope. -/
def Topology.Deploys (t : Topology) (name : String) (place : Scope) : Prop :=
  ∃ l ∈ t.network.prefixLists, l.name = name ∧
    l.isDeployedTo place.account place.region = true

namespace UnitMap

variable {v : Vantage} {t : Topology} {m : UnitMap} {s s' : Run}

/-- The map of a unit has no prefix list that is not deployed to the unit. -/
theorem deploys_of_build (run : (build v t).run s = .ok m s') {name : String}
    (listed : m.prefixLists.contains name = true) : t.Deploys name v.caller := by
  obtain ⟨ds, -, grown⟩ := build_grown run
  clear run
  induction grown with
  | start => exact nomatch listed
  | ownGateway _ _ _ ih => exact ih listed
  | ownTable _ _ _ _ ih => exact ih listed
  | foreignTable _ _ _ _ _ ih => exact ih listed
  | foreignGateway _ _ _ _ _ ih => exact ih listed
  | attachment _ _ _ _ _ ih => exact ih listed
  | prefixList _ defined deployed _ ih =>
    rcases (SortedMap.contains_insert ..).mp listed with rfl | old
    · exact ⟨_, defined, rfl, deployed⟩
    · exact ih old

/-! ### Static routes -/

/-- A route to a prefix list has a destination if the map has the list. -/
theorem contains_of_routeDestination {r : StaticRoute} {d : Destination} {name : String}
    (h : m.routeDestination r = .ok d) (noBlock : r.destinationCidrBlock = none)
    (named : r.destinationPrefixList = some name) : m.prefixLists.contains name = true := by
  unfold routeDestination at h
  rw [noBlock, named, Option.getD_some] at h
  cases found : m.prefixLists.get? name with
  | none => simp [found] at h
  | some id => simp [SortedMap.contains, found]

/-- A route to an attachment has an action if it leads to one attachment. -/
theorem length_targets_of_routeAction {g : Gateway} {r : StaticRoute} {a : RouteAction}
    {target : RouteTarget} (h : m.routeAction g r = .ok a) (named : r.attachment = some target) :
    (m.targets g target).length = 1 := by
  unfold routeAction at h
  rw [named] at h
  match found : m.targets g target with
  | [] => simp [found] at h
  | [_] => rfl
  | _ :: _ :: _ => simp [found] at h

end UnitMap

/-- A static route that names a prefix list has no block. -/
theorem Topology.noBlock_of_faultless {g : Gateway} {table : GatewayRouteTable} {r : StaticRoute}
    {name : String} (none : staticRouteFaults g table r = [])
    (named : r.destinationPrefixList = some name) : r.destinationCidrBlock = .none := by
  cases block : r.destinationCidrBlock with
  | none => rfl
  | some b => simp [staticRouteFaults, block, named] at none

/-! ### Routes over peerings -/

/-- A prefix list that a destination names is deployed to a scope. -/
def Topology.Reaches (t : Topology) (place : Scope) (d : Destination) : Prop :=
  ∀ name id, d = .prefixList name id → t.Deploys name place

/-- The prefix lists of routes are deployed where the routes are written. -/
structure RouteBatch.Reached (t : Topology) (b : RouteBatch) : Prop where
  direct : ∀ r ∈ b.routes, t.Reaches r.scope r.destination
  delegated : ∀ r ∈ b.crossAccountRoutes, t.Reaches r.owner r.destination

namespace RouteBatch

variable {t : Topology} {b b' : RouteBatch}

theorem reached_nil : Reached t {} := ⟨by simp, by simp⟩

theorem Reached.append (h : b.Reached t) (h' : b'.Reached t) : (b ++ b').Reached t where
  direct := List.forall_mem_append.mpr ⟨h.direct, h'.direct⟩
  delegated := List.forall_mem_append.mpr ⟨h.delegated, h'.delegated⟩

end RouteBatch

namespace Vantage

variable {v : Vantage} {t : Topology} {c : Connection} {side : PeeringSide} {s s' : Run}

theorem reaches_of_destination {r : VpcRoute} {own peer : PeeringEnd} {d : Destination}
    (run : (v.destination t r own peer).run s = .ok d s') : t.Reaches own.scope d := by
  rintro name id rfl
  unfold destination at run
  split at run
  · exact nomatch (run_pure_ok.mp run).1
  · exact nomatch (run_pure_ok.mp run).1
  · next name' asked =>
    simp only at run
    split at run
    · next deployed =>
      obtain ⟨id', s₁, -, last⟩ := run_bind_ok.mp run
      cases (run_pure_ok.mp last).1
      cases found : t.prefixList? name with
      | none => simp [found] at deployed
      | some l =>
        obtain ⟨defined, name⟩ := Topology.prefixList?_some found
        rw [found, Option.any_some] at deployed
        exact ⟨l, defined, name, deployed⟩
    · exact nomatch run
  · obtain ⟨vpc, s₁, -, run⟩ := run_bind_ok.mp run
    split at run
    · exact nomatch (run_pure_ok.mp run).1
    · obtain ⟨block, s₂, -, last⟩ := run_bind_ok.mp run
      exact nomatch (run_pure_ok.mp last).1

theorem reached_of_routeOn {key table tableId : String} {d : Destination}
    (reaches : t.Reaches (c.endOn side).scope d) :
    (v.routeOn c side key table tableId d).Reached t := by
  simp only [routeOn]
  split
  · next here =>
    rw [here] at reaches
    exact ⟨by simpa using reaches, by simp⟩
  · exact ⟨by simp, by simpa using reaches⟩

theorem reached_of_planRoute {table : String} {r : VpcRoute} {b : RouteBatch}
    (run : (v.planRoute t c side table r).run s = .ok b s') : b.Reached t := by
  obtain ⟨s₀, s₁, -, run⟩ := run_bind_ok.mp run
  split at run
  · obtain ⟨rfl, -⟩ := run_pure_ok.mp run
    exact RouteBatch.reached_nil
  · obtain ⟨_, s₂, -, run⟩ := run_bind_ok.mp run
    obtain ⟨tableId, s₃, -, run⟩ := run_bind_ok.mp run
    obtain ⟨d, s₄, led, last⟩ := run_bind_ok.mp run
    obtain ⟨rfl, -⟩ := run_pure_ok.mp last
    exact reached_of_routeOn (reaches_of_destination led)

theorem reached_of_planRoutes :
    ∀ {rs : List (String × VpcRoute)} {b : RouteBatch} {s s' : Run},
      (v.planRoutes t c side rs).run s = .ok b s' → b.Reached t
  | [], _, _, _, run => by
    obtain ⟨rfl, -⟩ := run_pure_ok.mp run
    exact RouteBatch.reached_nil
  | (table, r) :: rest, _, _, _, run => by
    obtain ⟨first, s₁, one, run⟩ := run_bind_ok.mp run
    obtain ⟨others, s₂, rest, last⟩ := run_bind_ok.mp run
    obtain ⟨rfl, -⟩ := run_pure_ok.mp last
    exact (reached_of_planRoute one).append (reached_of_planRoutes rest)

theorem reached_of_planSide {r : Connection × RouteBatch}
    (run : (v.planSide t side c).run s = .ok r s') : r.2.Reached t := by
  obtain ⟨-, rfl, -⟩ | ⟨-, batch, routed, rfl⟩ := planSide_ok run
  · exact RouteBatch.reached_nil
  · obtain ⟨vpc, s₁, -, planned⟩ := run_bind_ok.mp routed
    exact reached_of_planRoutes planned

end Vantage

namespace PeeringPlan

variable {v : Vantage} {t : Topology} {s s' : Run}

theorem reached_of_planSides {side : PeeringSide} {cs : List Connection}
    {r : List Connection × RouteBatch} (run : (planSides v t side cs).run s = .ok r s') :
    r.2.Reached t := by
  obtain ⟨results, s₁, planned, last⟩ := run_bind_ok.mp run
  obtain ⟨rfl, -⟩ := run_pure_ok.mp last
  have each : ∀ result ∈ results, result.2.Reached t := by
    intro result hr
    obtain ⟨c, -, s₁, s₂, one⟩ := run_forEach_ok planned result hr
    exact Vantage.reached_of_planSide one
  have joined : ∀ (rest : List (Connection × RouteBatch)) (b : RouteBatch), b.Reached t →
      (∀ result ∈ rest, result.2.Reached t) →
      (rest.foldl (fun b result => b ++ result.2) b).Reached t := by
    intro rest
    induction rest with
    | nil => exact fun b start _ => start
    | cons result rest ih =>
      intro b start each
      obtain ⟨first, others⟩ := List.forall_mem_cons.mp each
      exact ih _ (start.append first) others
  exact joined results {} RouteBatch.reached_nil each

/-- Of the routes over peerings that are planned, each prefix list is deployed where its route
is written. -/
theorem reached_of_build {p : PeeringPlan} (run : (build v t).run s = .ok p s') :
    RouteBatch.Reached t ⟨p.routes, p.crossAccountRoutes⟩ := by
  obtain ⟨cs, s₁, -, run⟩ := run_bind_ok.mp run
  obtain ⟨cs₁, s₂, -, run⟩ := run_bind_ok.mp run
  obtain ⟨⟨cs₂, requested⟩, s₃, first, run⟩ := run_bind_ok.mp run
  obtain ⟨⟨cs₃, accepted⟩, s₄, second, last⟩ := run_bind_ok.mp run
  obtain ⟨rfl, -⟩ := run_pure_ok.mp last
  exact (reached_of_planSides first).append (reached_of_planSides second)

end PeeringPlan

/-- An entry that is realized and asks for a prefix list has it deployed where its table is. -/
theorem Vantage.Realizes.deploys {v : Vantage} {t : Topology} {s : Run} {es : List RouteEntry}
    {b : RouteBatch} (h : v.Realizes t s es b) (reached : b.Reached t) {e : RouteEntry}
    (he : e ∈ es) {name : String} (asked : e.route.destinationSpec = .prefixList name) :
    t.Deploys name e.own.scope := by
  have named {d : Destination} (leads : v.Leads t s e d) : ∃ id, d = .prefixList name id := by
    cases leads with
    | prefixList asked' _ =>
      cases asked.symm.trans asked'
      exact ⟨_, rfl⟩
    | cidr asked' => exact nomatch asked.symm.trans asked'
    | ipv6Cidr asked' => exact nomatch asked.symm.trans asked'
    | peerBlock asked' => exact nomatch asked.symm.trans asked'
    | peerLearned asked' => exact nomatch asked.symm.trans asked'
  cases direct : e.isDirect v with
  | true =>
    obtain ⟨r, hr, writes⟩ := exists_of_forall₂ h.direct (List.mem_filter.mpr ⟨he, direct⟩)
    obtain ⟨id, destination⟩ := named writes.destination
    rw [← writes.scope]
    exact reached.direct r hr name id destination
  | false =>
    obtain ⟨r, hr, delegates⟩ :=
      exists_of_forall₂ h.delegated (List.mem_filter.mpr ⟨he, by simp [direct]⟩)
    obtain ⟨id, destination⟩ := named delegates.destination
    rw [← delegates.owner]
    exact reached.delegated r hr name id destination

/-- An entry is for a route of a VPC. -/
theorem PeeringPlan.written_of_entry {t : Topology} {cs : List Connection} {e : RouteEntry}
    (he : e ∈ routeEntries t cs) : ∃ v, t.WritesInVpc v e.route := by
  obtain ⟨c, -, side, he⟩ := PeeringPlan.mem_routeEntries he
  obtain ⟨v, r, found, leading, rfl⟩ := Vantage.mem_entriesOn he
  obtain ⟨table, htable, ofTable⟩ := List.mem_flatMap.mp leading
  obtain ⟨route, hroute, rfl⟩ := List.mem_map.mp ofTable
  exact ⟨v, (Topology.vpc?_some found).1, table, htable, (List.mem_filter.mp hroute).1⟩

/-! ## The whole -/

/-- The mentions that a plan has settled, although validation has not looked at them. -/
structure Topology.Settles (t : Topology) (scope : Scope) (p : Plan) : Prop where
  /-- The prefix list of a static route is deployed to the unit. -/
  staticRoutes : ∀ g r name, t.Writes scope g r → r.destinationPrefixList = some name →
    t.Deploys name scope
  /-- The target of a static route is one attachment. -/
  targets : ∀ g r target, t.Writes scope g r → r.attachment = some target →
    ∃ ds, t.attachments t.registry scope = .ok ds ∧ ds.countP (isTarget g target) = 1
  /-- The prefix list of a route over a connection of the unit is deployed where the route's
  table is. -/
  vpcRoutes : ∀ e ∈ RouteEntry.newFrom [] (PeeringPlan.routeEntries t p.peering.connections),
    ∀ name, e.route.destinationPrefixList = some name → t.Deploys name e.own.scope

namespace Topology

variable {t : Topology}

theorem settles_of_plan (faultless : t.Faultless) {scope : Scope} {backend : Backend} {p : Plan}
    {s : Run} (planned : t.plan scope backend = .ok p s) : t.Settles scope p := by
  have serves := Plan.serves_of_build rfl planned
  obtain ⟨m, s₁, graph, routes, peering, s₂, rules, mapped, -, static, built, -, rfl⟩ :=
    Plan.build_ok planned
  obtain ⟨ds, described, held⟩ := UnitMap.build_holds mapped
  have mine : m.scope = scope := held.scope
  rw [← mine]
  refine ⟨fun g r name own named => ?_, fun g r target own named => ?_, fun e he name named => ?_⟩
  · obtain ⟨hg, table, htable, hr⟩ := own
    obtain ⟨id, route, -, made⟩ := UnitMap.gatewayRoute_of_written static hg htable hr
    have none := (faultless.gateway_faults (UnitMap.mem_ownGateways.mp hg).1).2 table htable r hr
    have listed := UnitMap.contains_of_routeDestination (UnitMap.gatewayRoute_ok made).1
      (noBlock_of_faultless none named) named
    rw [mine]
    exact UnitMap.deploys_of_build mapped listed
  · obtain ⟨hg, table, htable, hr⟩ := own
    obtain ⟨id, route, -, made⟩ := UnitMap.gatewayRoute_of_written static hg htable hr
    have one := UnitMap.length_targets_of_routeAction (UnitMap.gatewayRoute_ok made).2.1 named
    have matching := (UnitMap.targets_perm held (fun d hd => faultless.grounded described hd)
      faultless (mine ▸ hg) target).length_eq
    rw [List.length_map, one, ← List.countP_eq_length_filter] at matching
    rw [mine]
    exact ⟨ds, described, matching.symm⟩
  · obtain ⟨v, written⟩ := PeeringPlan.written_of_entry
      ((RouteEntry.newFrom_sublist ..).subset he)
    exact serves.first.deploys (PeeringPlan.reached_of_build built) he
      (faultless.destinationSpec_of_prefixList written named)

/-- In a topology that is accepted, every name that validation looks up is defined, and every
route over a peering has some target. The prefix lists of routes and the targets of static
routes are settled by every plan that comes about. -/
theorem references_of_valid (valid : t.validate = .ok ()) :
    (∀ m, t.Verified m → t.Defines m) ∧
    (∀ v r, t.WritesInVpc v r → r.type = .vpcPeering → ∃ name, r.target = some name) ∧
    ∀ scope backend p s, t.plan scope backend = .ok p s → t.Settles scope p := by
  have faultless := faultless_of_validate valid
  exact ⟨fun _ => defines_of_verified faultless, fun _ _ => faultless.peeringRoute_target,
    fun _ _ _ _ => settles_of_plan faultless⟩

/-! ### Names that lead somewhere, and names that do not -/

/-- A static route to a child. -/
def sampleStatic (child : String) : StaticRoute :=
  ⟨none, some "branches", false, some ⟨.vpc, child, none⟩⟩

/-- A gateway with a static route to a child. -/
def sampleHub (child : String) : Gateway where
  name := "Core"
  account := "Network"
  region := "us-east-1"
  routeTables := [{ name := "hub", routes := [sampleStatic child] }, { name := "spokes" }]

/-- A route over a peering. -/
def sampleOver (peering : String) : VpcRoute where
  name := "shared"
  type := .vpcPeering
  destination := none
  destinationPrefixList := some "offices"
  ipv6Destination := none
  target := some peering

/-- A VPC with a route over a peering. -/
def sampleApp (peering : String) : Vpc where
  name := "App"
  region := "us-east-1"
  placement := .single "Workload"
  cidrs := ["10.0.0.0/16"]
  ipamPool := none
  routeTables := [{ name := "private", routes := [sampleOver peering] }]
  attachments :=
    [{ name := "App-Core", gateway := ⟨"Core", "Network"⟩
       associations := ["spokes"], propagations := ["hub"] }]
  resolverRules := ["corp"]

/-- The sample with a static route to a child, a route over a peering, and some prefix lists. -/
def sampleNaming (child peering : String) (lists : List PrefixList) : Topology where
  settings := sample.settings
  accounts := sample.accounts
  network :=
    { sample.network with
      gateways := [sampleHub child]
      vpcs := sampleApp peering :: sample.network.vpcs.tail
      prefixLists := lists }

/-- All that is named is there, and deployed where it is needed. -/
def sampleNamed : Topology :=
  sampleNaming "App" "AppShared"
    [⟨"branches", ["Network"], ["us-east-1"], []⟩, ⟨"offices", ["Workload"], ["us-east-1"], []⟩]

/-- A name is astray in every position that validation leaves alone. -/
def sampleDangling : Topology :=
  sampleNaming "Ap" "AppShard" [⟨"partners", ["Nobody"], ["us-east-1"], []⟩]

/-- The owner of the gateway plans the static route, and the owner of the VPC the route over the
peering. -/
theorem references_of_valid_named :
    sampleNamed.validate = .ok () ∧
    sampleNamed.Defines (.routeTable "Core" "Network" "spokes") ∧
    (∃ p s, sampleNamed.plan ⟨"Network", "us-east-1"⟩ (.fixed fun _ => .value "id") = .ok p s ∧
      p.gatewayRoutes.map (·.destination) = [.prefixList "branches" "id"] ∧
      sampleNamed.Settles ⟨"Network", "us-east-1"⟩ p) ∧
    ∃ p s, sampleNamed.plan ⟨"Workload", "us-east-1"⟩ (.fixed fun _ => .value "id") = .ok p s ∧
      p.peering.routes.map (·.destination) = [.prefixList "offices" "id"] ∧
      sampleNamed.Settles ⟨"Workload", "us-east-1"⟩ p := by
  have network : (Plan.build (sampleNamed.vantage ⟨"Network", "us-east-1"⟩
      (.fixed fun _ => .value "id")) sampleNamed).comesTo (fun p =>
        decide (p.gatewayRoutes.map (·.destination) = [.prefixList "branches" "id"])) = true := by
    decide +kernel
  have workload : (Plan.build (sampleNamed.vantage ⟨"Workload", "us-east-1"⟩
      (.fixed fun _ => .value "id")) sampleNamed).comesTo (fun p =>
        decide (p.peering.routes.map (·.destination) = [.prefixList "offices" "id"])) = true := by
    decide +kernel
  obtain ⟨p, s, planned, static⟩ := Lookup.exists_of_comesTo network
  obtain ⟨p', s', planned', leading⟩ := Lookup.exists_of_comesTo workload
  have valid : sampleNamed.validate = .ok () := rfl
  obtain ⟨defined, -, settled⟩ := references_of_valid valid
  have attaches : sampleNamed.AttachesTo "Core" "Network" ["spokes", "hub"] :=
    .vpc (a := (sampleApp "AppShared").attachments.head (by decide)) List.mem_cons_self
      (List.mem_singleton_self _)
  exact ⟨valid, defined _ (.routeTable attaches List.mem_cons_self),
    ⟨p, s, planned, of_decide_eq_true static, settled _ _ _ _ planned⟩,
    p', s', planned', of_decide_eq_true leading, settled _ _ _ _ planned'⟩

/-- Validation accepts a topology in which names of each sort that it leaves alone lead
nowhere. -/
theorem mentions_undefined :
    sampleDangling.validate = .ok () ∧
    (∀ m ∈ [Mention.account "Nobody", .peering "AppShard" "App", .prefixList "offices",
        .prefixList "branches", .child (sampleHub "Ap") ⟨.vpc, "Ap", none⟩],
      sampleDangling.Deferred m ∧ ¬ sampleDangling.Defines m) ∧
    ¬ ∀ m, sampleDangling.Mentions m → sampleDangling.Defines m := by
  have astray : ∀ m ∈ [Mention.account "Nobody", .peering "AppShard" "App",
      .prefixList "offices", .prefixList "branches",
      .child (sampleHub "Ap") ⟨.vpc, "Ap", none⟩],
      sampleDangling.Deferred m ∧ ¬ sampleDangling.Defines m := by
    have vpc : sampleDangling.WritesInVpc (sampleApp "AppShard") (sampleOver "AppShard") :=
      ⟨List.mem_cons_self, _, List.mem_singleton_self _, List.mem_singleton_self _⟩
    have gateway : sampleDangling.WritesAtGateway (sampleHub "Ap") (sampleStatic "Ap") :=
      ⟨List.mem_singleton_self _, _, List.mem_cons_self, List.mem_singleton_self _⟩
    intro m hm
    simp only [List.mem_cons, List.not_mem_nil, or_false] at hm
    rcases hm with rfl | rfl | rfl | rfl | rfl
    · refine ⟨.account (List.mem_singleton_self _) (List.mem_singleton_self _), ?_⟩
      simp only [Defines]
      decide
    · refine ⟨.peering vpc rfl rfl, ?_⟩
      simp only [Defines]
      decide
    · refine ⟨.vpcRoute vpc rfl, ?_⟩
      simp only [Defines]
      decide
    · refine ⟨.staticRoute gateway rfl, ?_⟩
      simp only [Defines]
      decide
    · refine ⟨.child gateway rfl, ?_⟩
      rintro ⟨scope, d, described, target⟩
      have only : sampleDangling.attachmentResults sampleDangling.registry scope =
          [.ok ⟨.vpc, "App", "App-Core", "Core", "Network", "us-east-1",
            ⟨"Workload", "us-east-1"⟩, false, ["spokes"], ["hub"]⟩] := rfl
      rw [only, List.mem_singleton] at described
      cases described
      exact absurd target (by decide)
  refine ⟨rfl, astray, fun all => ?_⟩
  obtain ⟨deferred, undefined⟩ := astray _ List.mem_cons_self
  exact undefined (all _ (.inr deferred))

end Topology

end Interlink
