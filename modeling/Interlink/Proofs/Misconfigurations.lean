import Interlink.Proofs.Edges
import Interlink.Proofs.Failures
import Interlink.Proofs.PeeringRoutes

/-!
# What validation leaves to find

A unit of a valid topology that cannot be planned fails for one of three reasons:
a lookup has failed, an edge was asked for twice, or the topology has one of the
faults that validation does not look for (`Topology.PlanFails`). The last are
listed by `Topology.Remaining`, each with the scope that it is found in: what
keeps a unit from building its map, a prefix list that is not deployed where a
route needs it, and a static route whose target is no attachment or several.

This module follows the stages that read the map. An edge needs the id of a route
table, and the map has the ids of all tables that the attachments of the unit
name, be they on gateways of the unit or of others (`UnitMap.table_recorded`). A
static route needs the attachments that match its target, and the map has all of
them (`UnitMap.targets_perm`).
-/

namespace Interlink

open UnitMap

/-! ## The faults that remain -/

namespace Topology

/-- A static route of a gateway of the unit. -/
def Writes (t : Topology) (scope : Scope) (g : Gateway) (r : StaticRoute) : Prop :=
  g ∈ ownGateways t scope ∧ ∃ table ∈ g.routeTables, r ∈ table.routes

/-- An end of a peering: a VPC that it connects, in an account that the VPC is
deployed to. -/
structure EndOf (t : Topology) (p : VpcPeering) (e : PeeringEnd) (v : Vpc) : Prop where
  connected : v.name ∈ p.vpcs
  found : t.vpc? e.vpc = some v
  region : e.scope.region = v.region
  deployed : e.scope.account ∈ t.registry.vpcAccounts v

/-- What a unit of a valid topology can find wrong, and where.

That a prefix list is not deployed means something else to a static route than to
a route over a peering, for names of prefix lists may repeat. The destination of a
static route is looked up in the map, which has every list that is deployed to the
unit, and so no list of the name is. A route over a peering asks for the first
list of the name, and one further down that is deployed does not count. -/
inductive Remaining (t : Topology) (scope : Scope) : Misconfiguration → Scope → Prop
  /-- The map cannot be built: a VPC is attached to a gateway of another region,
  or two attachments of the unit share a key. -/
  | unmappable {fault : Misconfiguration} (unmappable : t.Unmappable scope fault) :
      Remaining t scope fault scope
  /-- A static route names a prefix list that is not deployed to the unit. -/
  | prefixListNotAtGateway {g : Gateway} {r : StaticRoute} {name : String}
      (own : t.Writes scope g r) (named : r.destinationPrefixList = some name)
      (undeployed : ∀ l ∈ t.network.prefixLists, l.name = name →
        l.isDeployedTo scope.account scope.region = false) :
      Remaining t scope (.prefixListNotAtGateway name) scope
  /-- No attachment is the target of a static route. -/
  | noRouteTarget {g : Gateway} {r : StaticRoute} {target : RouteTarget} {ds : List Attachment}
      (own : t.Writes scope g r) (named : r.attachment = some target)
      (described : t.attachments t.registry scope = .ok ds)
      (none : ∀ a ∈ ds, isTarget g target a = false) :
      Remaining t scope (.noRouteTarget target.kind target.name g.name) scope
  /-- Several attachments are the target of a static route. -/
  | severalRouteTargets {g : Gateway} {r : StaticRoute} {target : RouteTarget}
      {ds : List Attachment} (own : t.Writes scope g r) (named : r.attachment = some target)
      (described : t.attachments t.registry scope = .ok ds)
      (several : 1 < ds.countP (isTarget g target)) :
      Remaining t scope (.severalRouteTargets target.kind target.name) scope
  /-- A route over a peering names a prefix list that is not deployed where its
  route table is. -/
  | prefixListNotAtRouteTable {p : VpcPeering} {e : PeeringEnd} {v : Vpc} {table : String}
      {r : VpcRoute} {name : String} (peering : p ∈ t.network.vpcPeerings) (own : t.EndOf p e v)
      (listed : (table, r) ∈ v.routesOver p.name) (named : r.destinationSpec = .prefixList name)
      (undeployed :
        ((t.prefixList? name).any (·.isDeployedTo e.scope.account e.scope.region)) = false) :
      Remaining t scope (.prefixListNotAtRouteTable name) e.scope

/-- Why a unit of a valid topology cannot be planned. -/
inductive PlanFails (t : Topology) (scope : Scope) : PlanError → Prop
  | lookup {e : PlanError} (ofLookup : e.OfLookup) : PlanFails t scope e
  | misconfigured {fault : Misconfiguration} {place : Scope}
      (remaining : t.Remaining scope fault place) : PlanFails t scope (.misconfigured fault place)
  | repeatedEdge {key : String} : PlanFails t scope (.repeatedEdge key scope)

theorem PlanFails.of_map {t : Topology} {scope : Scope} {e : PlanError}
    (h : t.MapFails scope e) : t.PlanFails scope e := by
  rcases h with lookup | ⟨fault, rfl, unmappable⟩
  · exact .lookup lookup
  · exact .misconfigured (.unmappable unmappable)

theorem member_of_hasAccount {t : Topology} {scope : Scope} {backend : Backend}
    {account : String} (h : t.hasAccount account = true) :
    (t.vantage scope backend).Member account :=
  accountId?_isSome.mpr h

end Topology

/-! ## What the map of a unit has -/

namespace UnitMap

variable {v : Vantage} {t : Topology} {m : UnitMap} {s s' : Run} {scope : Scope}
  {ds : List Attachment}

/-- Every prefix list that is deployed to the unit is in its map. -/
theorem build_prefixLists (run : (build v t).run s = .ok m s') {l : PrefixList}
    (hl : l ∈ t.network.prefixLists)
    (deployed : l.isDeployedTo v.caller.account v.caller.region = true) :
    m.prefixLists.contains l.name = true := by
  obtain ⟨m₁, s₁, -, run⟩ := run_bind_ok.mp run
  obtain ⟨ds, s₂, -, run⟩ := run_bind_ok.mp run
  obtain ⟨m₂, s₃, -, listed⟩ := run_bind_ok.mp run
  have all := run_foldlM_ok (fun done (m : UnitMap) =>
    ∀ l ∈ done, m.prefixLists.contains l.name = true) ?_ (by simp) listed
  · exact all l (List.mem_filter.mpr ⟨hl, deployed⟩)
  · intro before l c c' s s' _ hc run
    obtain ⟨id, s₄, -, last⟩ := run_bind_ok.mp run
    obtain ⟨rfl, -⟩ := run_pure_ok.mp last
    intro l' hl'
    rcases List.mem_append.mp hl' with earlier | new
    · exact (SortedMap.contains_insert ..).mpr (.inr (hc l' earlier))
    · rw [List.mem_singleton.mp new]
      exact (SortedMap.contains_insert ..).mpr (.inl rfl)

/-- The attachments that a static route may lead to are those that are described
and match it, also where the route's unit sees more than its own. -/
theorem targets_perm {gateways : List String} {tables : List (String × String)}
    (held : m.Holds scope gateways tables (ds.filter (concerns scope)))
    (grounded : ∀ d ∈ ds, t.Grounded d) (faultless : t.Faultless) {g : Gateway}
    (own : g ∈ ownGateways t scope) (target : RouteTarget) :
    ((m.targets g target).map (·.2.descriptor)).Perm (ds.filter (isTarget g target)) := by
  have targets : (m.targets g target).map (·.2.descriptor) =
      (m.described.map (·.2)).filter (isTarget g target) := by
    simp only [UnitMap.targets, described, List.map_map, List.filter_map, Function.comp_def]
  have kept : (ds.filter (concerns scope)).filter (isTarget g target) =
      ds.filter (isTarget g target) := by
    rw [List.filter_filter]
    refine List.filter_congr fun d hd => ?_
    cases matching : isTarget g target d with
    | false => rfl
    | true =>
      have on : d.gateway = g.name ∧ d.gatewayAccount = g.account := by
        simp only [isTarget, Bool.and_eq_true, beq_iff_eq] at matching
        exact matching.1.1.1
      obtain ⟨defined, account, region⟩ := mem_ownGateways.mp own
      obtain ⟨g', found, there⟩ := (grounded d hd).gateway
      obtain ⟨defined', name', account'⟩ := Topology.gateway?_some found
      have same : g' = g := faultless.gateway_eq_of_account defined' defined
        (name'.trans on.1) (account'.trans on.2)
      have here : d.region = scope.region := by rw [← there, same, region]
      have owned : d.gatewayAccount = scope.account := on.2.trans account
      simp [concerns, ownsGateway, here, owned]
  have all := (held.attachments.map (·.2)).filter (isTarget g target)
  simp only [List.map_map, Function.comp_def, List.map_id'] at all
  rw [targets, ← kept]
  exact all

/-! ## Edges -/

/-- The map has what the edges of an entry need. -/
def Served (m : UnitMap) (e : String × ResolvedAttachment) : Prop :=
  m.attachments.get? e.1 = some e.2 ∧
    ∀ table ∈ e.2.descriptor.associations ++ e.2.descriptor.propagations,
      (m.routeTableId? e.2.descriptor.region e.2.descriptor.gateway table).isSome = true

/-- What the map serves it has the edges of. -/
theorem Served.edge {x : String × ResolvedAttachment} (served : m.Served x) {kind : EdgeKind}
    {table : String} (named : table ∈ x.2.descriptor.tables kind) {e : PlanError} :
    m.edge kind x.1 table ≠ .error e := by
  obtain ⟨there, known⟩ := served
  obtain ⟨id, found⟩ := Option.isSome_iff_exists.mp (known table (tables_subset _ kind named))
  intro none
  rw [UnitMap.edge, there] at none
  simp only [found] at none
  exact nomatch none

/-- The map that has been built serves the edges of all attachments of the
unit. -/
theorem served_of_holds {gateways : List String} (held : m.Holds scope gateways
      ((recordedTables t scope ds).map fun r => (scope.region, Key.routeTable r.1.name r.2))
      (ds.filter (concerns scope)))
    (grounded : ∀ d ∈ ds, t.Grounded d) (linked : ∀ d ∈ ds, t.Linked d) :
    ∀ e ∈ m.owned, m.Served e := by
  intro e he
  obtain ⟨there, owner⟩ := List.mem_filter.mp he
  have own : e.2.descriptor.owner = scope := (beq_iff_eq.mp owner).trans held.scope
  have listed : (e.1, e.2.descriptor) ∈ m.described := List.mem_map_of_mem there
  obtain ⟨d, hd, same⟩ := List.mem_map.mp (held.attachments.subset listed)
  have hd : e.2.descriptor ∈ ds := by
    rw [Prod.mk.injEq] at same
    exact same.2 ▸ (List.mem_filter.mp hd).1
  exact ⟨SortedMap.mem_entries.mp there, fun table named =>
    routeTable_recorded held hd own (grounded _ hd) (linked _ hd) named⟩

/-! ## Static routes -/

variable {g : Gateway} {r : StaticRoute}

section StaticRoutes

variable (faultless : t.Faultless) {backend : Backend}
  (run : (build (t.vantage scope backend) t).run s = .ok m s')
include faultless run

/-- A static route of the unit is planned unless a prefix list is not deployed to
the unit or the target is not one attachment. -/
theorem gatewayRoute_fails {table : GatewayRouteTable} {id : String} {e : PlanError}
    (own : g ∈ ownGateways t scope) (htable : table ∈ g.routeTables) (hr : r ∈ table.routes)
    (h : m.gatewayRoute g table.name id r = .error e) : t.PlanFails scope e := by
  obtain ⟨ds, described, held⟩ := build_holds run
  have mine : m.scope = scope := held.scope
  have writes : t.Writes scope g r := ⟨own, table, htable, hr⟩
  rcases gatewayRoute_error_cases h with destination | action
  · obtain ⟨noBlock, absent, rfl⟩ := routeDestination_error destination
    have none := (faultless.gateway_faults (mem_ownGateways.mp own).1).2 table htable r hr
    obtain ⟨name, named⟩ := Topology.prefixList_of_faultless none noBlock
    rw [named, Option.getD_some] at absent
    rw [mine, named, Option.getD_some]
    refine .misconfigured (.prefixListNotAtGateway writes named fun l hl same => ?_)
    cases deployed : l.isDeployedTo scope.account scope.region with
    | false => rfl
    | true =>
      have there := build_prefixLists run hl deployed
      rw [same, absent] at there
      exact nomatch there
  · obtain ⟨target, named, cause⟩ := routeAction_error action
    have matching := (targets_perm held (fun d hd => faultless.grounded described hd) faultless
      own target).length_eq
    rw [List.length_map] at matching
    rw [matching, ← List.countP_eq_length_filter, mine] at cause
    rcases cause with ⟨none, rfl⟩ | ⟨several, rfl⟩
    · refine .misconfigured (.noRouteTarget writes named described fun a ha => ?_)
      exact Bool.eq_false_iff.mpr (List.countP_eq_zero.mp none a ha)
    · exact .misconfigured (.severalRouteTargets writes named described several)

theorem gatewayRoutes_fails {e : PlanError} (h : m.gatewayRoutes t = .error e) :
    t.PlanFails scope e := by
  obtain ⟨ds, described, held⟩ := build_holds run
  have mine : m.scope = scope := held.scope
  obtain ⟨g, own, table, htable, ⟨-, rfl⟩ | ⟨id, r, hr, failed⟩⟩ := gatewayRoutes_error_cases h
  · exact .lookup .notFound
  · exact gatewayRoute_fails faultless run (mine ▸ own) htable hr failed

end StaticRoutes

end UnitMap

end Interlink
