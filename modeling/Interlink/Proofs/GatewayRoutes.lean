import Interlink.Proofs.Consistency
import Interlink.Proofs.Misconfigurations

/-!
# Static routes are those of the description

The owner of a gateway reads its static routes off the description and its map, and asks
nothing. `gatewayRoutes_follow` says that they agree with the description: one planned
route a written one, in the order of the description, each as `UnitMap.Follows` has it.

Two parts of that do not come of the stage itself. The stage drops or forwards by the
presence of a target and never looks at the flag of a route; validation ties the two
(`blackhole_of_faultless`). And it refuses a target that several attachments match.
Where the target names its owner's account, no two can match: the key of an attachment is
made of gateway, owner's account and child, all of which the target then fixes, and the
map has one attachment a key (`length_targets_le_one`).
-/

namespace Interlink

/-! ## Static routes as they are written -/

/-- A static route of the description, with where it is written. -/
structure WrittenRoute where
  gateway : Gateway
  table : GatewayRouteTable
  route : StaticRoute

/-- The route tables of the gateways of a unit, in the order of the description. -/
def Topology.ownTables (t : Topology) (scope : Scope) : List (Gateway × GatewayRouteTable) :=
  (UnitMap.ownGateways t scope).flatMap fun g => g.routeTables.map fun table => (g, table)

/-- The static routes that are written for a unit, in the order of the description. -/
def Topology.writtenRoutes (t : Topology) (scope : Scope) : List WrittenRoute :=
  (t.ownTables scope).flatMap fun p => p.2.routes.map fun r => ⟨p.1, p.2, r⟩

namespace Topology

variable {t : Topology} {scope : Scope}

theorem mem_ownTables {p : Gateway × GatewayRouteTable} :
    p ∈ t.ownTables scope ↔ p.1 ∈ UnitMap.ownGateways t scope ∧ p.2 ∈ p.1.routeTables := by
  simp only [ownTables, List.mem_flatMap, List.mem_map]
  constructor
  · rintro ⟨g, hg, table, htable, rfl⟩
    exact ⟨hg, htable⟩
  · exact fun ⟨hg, htable⟩ => ⟨_, hg, _, htable, rfl⟩

theorem mem_writtenRoutes {w : WrittenRoute} :
    w ∈ t.writtenRoutes scope ↔
      (w.gateway, w.table) ∈ t.ownTables scope ∧ w.route ∈ w.table.routes := by
  simp only [writtenRoutes, List.mem_flatMap, List.mem_map]
  constructor
  · rintro ⟨p, hp, r, hr, rfl⟩
    exact ⟨hp, hr⟩
  · exact fun ⟨hp, hr⟩ => ⟨_, hp, _, hr, rfl⟩

/-- Validation has found no fault in a static route that is written for a unit. -/
theorem Faultless.writtenRoute_faults (h : t.Faultless) {w : WrittenRoute}
    (written : w ∈ t.writtenRoutes scope) : staticRouteFaults w.gateway w.table w.route = [] := by
  obtain ⟨own, hr⟩ := mem_writtenRoutes.mp written
  obtain ⟨hg, htable⟩ := mem_ownTables.mp own
  exact (h.gateway_faults (UnitMap.mem_ownGateways.mp hg).1).2 _ htable _ hr

/-- A static route of a valid topology matches a block or a prefix list, and not both. -/
theorem oneDestination_of_faultless {g : Gateway} {table : GatewayRouteTable} {r : StaticRoute}
    (none : staticRouteFaults g table r = []) :
    (∃ block, r.destinationCidrBlock = some block ∧ r.destinationPrefixList = .none) ∨
      ∃ name, r.destinationCidrBlock = .none ∧ r.destinationPrefixList = some name := by
  cases block : r.destinationCidrBlock with
  | none =>
    obtain ⟨name, named⟩ := prefixList_of_faultless none block
    exact .inr ⟨name, rfl, named⟩
  | some b =>
    cases list : r.destinationPrefixList with
    | none => exact .inl ⟨b, rfl, rfl⟩
    | some name => simp [staticRouteFaults, block, list] at none

/-- A static route of a valid topology has a target unless it drops what it matches. -/
theorem blackhole_of_faultless {g : Gateway} {table : GatewayRouteTable} {r : StaticRoute}
    (none : staticRouteFaults g table r = []) : r.attachment = .none ↔ r.blackhole = true := by
  have tied := orFault_eq_nil.mp (List.append_eq_nil_iff.mp none).2
  cases named : r.attachment <;> simpa [named] using tied

end Topology

/-! ## What follows a written route -/

/-- The attachment is one that a static route of a gateway names: it is on the gateway, and it
is of the kind, of the child and, where the route names one, of the owner's account. -/
structure RouteTarget.Names (target : RouteTarget) (g : Gateway) (a : Attachment) : Prop where
  gateway : a.gateway = g.name
  gatewayAccount : a.gatewayAccount = g.account
  kind : a.kind = target.kind
  child : a.child = target.name
  owner : ∀ account, target.account = some account → a.owner.account = account

namespace UnitMap

/-- The destination of a written route, with the id that the map has for a prefix list. -/
inductive HasDestination (m : UnitMap) (r : StaticRoute) : Destination → Prop
  | cidr {block : String} (written : r.destinationCidrBlock = some block)
      (noList : r.destinationPrefixList = none) : HasDestination m r (.cidr block)
  | prefixList {name id : String} (noBlock : r.destinationCidrBlock = none)
      (named : r.destinationPrefixList = some name) (known : m.prefixLists.get? name = some id) :
      HasDestination m r (.prefixList name id)

/-- The map has one attachment that a target names, with this key and this id. -/
structure OneTarget (m : UnitMap) (g : Gateway) (target : RouteTarget) (key id : String) :
    Prop where
  there : ∃ a, m.attachments.get? key = some a ∧ a.id = id ∧ target.Names g a.descriptor
  only : ∀ key' a, m.attachments.get? key' = some a → target.Names g a.descriptor → key' = key

/-- A planned route does what the description says of a written one. -/
structure Follows (m : UnitMap) (w : WrittenRoute) (r : GatewayRoute) : Prop where
  gateway : r.gateway = w.gateway.name
  routeTable : r.routeTable = w.table.name
  routeTableId : m.routeTableId? w.gateway.region w.gateway.name w.table.name =
    some r.routeTableId
  scope : r.scope = m.scope
  key : r.key = Key.gatewayRoute w.gateway.name w.table.name r.destination.label
  destination : m.HasDestination w.route r.destination
  blackhole : r.action = .blackhole ↔ w.route.blackhole = true
  forward : ∀ key id, r.action = .forward key id →
    ∃ target, w.route.attachment = some target ∧ m.OneTarget w.gateway target key id

variable {m : UnitMap} {t : Topology} {g : Gateway} {r : StaticRoute} {target : RouteTarget}

theorem isTarget_iff {a : Attachment} : isTarget g target a = true ↔ target.Names g a := by
  simp only [isTarget, Bool.and_eq_true, beq_iff_eq]
  constructor
  · rintro ⟨⟨⟨⟨gateway, account⟩, kind⟩, child⟩, owner⟩
    refine ⟨gateway, account, kind, child, fun name given => ?_⟩
    rw [given, Option.all_some, beq_iff_eq] at owner
    exact owner.symm
  · rintro ⟨gateway, account, kind, child, owner⟩
    refine ⟨⟨⟨⟨gateway, account⟩, kind⟩, child⟩, ?_⟩
    rw [Option.all_eq_true]
    exact fun name given => beq_iff_eq.mpr (owner name given).symm

theorem mem_targets {e : String × ResolvedAttachment} :
    e ∈ m.targets g target ↔
      m.attachments.get? e.1 = some e.2 ∧ target.Names g e.2.descriptor := by
  rw [targets, List.mem_filter, isTarget_iff, ← SortedMap.mem_entries]

theorem hasDestination_of_faultless {table : GatewayRouteTable} {d : Destination}
    (none : Topology.staticRouteFaults g table r = []) (h : m.routeDestination r = .ok d) :
    m.HasDestination r d := by
  unfold routeDestination at h
  rcases Topology.oneDestination_of_faultless none with ⟨b, block, list⟩ | ⟨name, block, list⟩
  · rw [block] at h
    obtain rfl := Except.ok.inj h
    exact .cidr block list
  · simp only [block, list, Option.getD_some] at h
    cases known : m.prefixLists.get? name with
    | none => simp [known] at h
    | some id =>
      rw [known] at h
      obtain rfl := Except.ok.inj h
      exact .prefixList block list known

/-- A route is planned without a target if and only if it is written without one. -/
theorem routeAction_blackhole {a : RouteAction} (h : m.routeAction g r = .ok a) :
    a = .blackhole ↔ r.attachment = none := by
  unfold routeAction at h
  cases named : r.attachment with
  | none =>
    rw [named] at h
    simp [(Except.ok.inj h).symm]
  | some target =>
    simp only [named] at h
    split at h
    · exact nomatch h
    · simp [(Except.ok.inj h).symm]
    · exact nomatch h

/-- A route that forwards leads to the one attachment that its target names. -/
theorem oneTarget_of_routeAction {key id : String}
    (h : m.routeAction g r = .ok (.forward key id)) :
    ∃ target, r.attachment = some target ∧ m.OneTarget g target key id := by
  unfold routeAction at h
  cases named : r.attachment with
  | none => simp [named] at h
  | some target =>
    simp only [named] at h
    split at h
    · exact nomatch h
    · next key' a one =>
      simp only [Except.ok.injEq, RouteAction.forward.injEq] at h
      obtain ⟨rfl, rfl⟩ := h
      have there : (key', a) ∈ m.targets g target := one ▸ List.mem_singleton_self _
      obtain ⟨found, names⟩ := mem_targets.mp there
      refine ⟨target, rfl, ⟨a, found, rfl, names⟩, fun key a' found' names' => ?_⟩
      have other : (key, a') ∈ m.targets g target := mem_targets.mpr ⟨found', names'⟩
      rw [one, List.mem_singleton] at other
      exact (Prod.mk.inj other).1
    · exact nomatch h

theorem follows_of_gatewayRoute {w : WrittenRoute} {id : String} {route : GatewayRoute}
    (none : Topology.staticRouteFaults w.gateway w.table w.route = [])
    (known : m.routeTableId? w.gateway.region w.gateway.name w.table.name = some id)
    (h : m.gatewayRoute w.gateway w.table.name id w.route = .ok route) : m.Follows w route := by
  obtain ⟨d, a, destination, action, rfl⟩ := gatewayRoute_eq_ok h
  refine ⟨rfl, rfl, known, rfl, rfl, hasDestination_of_faultless none destination, ?_, ?_⟩
  · exact (routeAction_blackhole action).trans (Topology.blackhole_of_faultless none)
  · rintro key id rfl
    exact oneTarget_of_routeAction action

theorem tables_flatMap (m : UnitMap) (t : Topology) :
    ((ownGateways t m.scope).flatMap fun g => g.routeTables.map (m.tableRoutes g)) =
      (t.ownTables m.scope).map fun p => m.tableRoutes p.1 p.2 := by
  simp only [Topology.ownTables, List.map_flatMap, List.map_map, Function.comp_def]

/-- The routes of a table follow what is written in it. -/
theorem follows_of_tableRoutes {table : GatewayRouteTable} {batch : List GatewayRoute}
    (none : ∀ r ∈ table.routes, Topology.staticRouteFaults g table r = [])
    (h : m.tableRoutes g table = .ok batch) :
    List.Forall₂ m.Follows (table.routes.map fun r => ⟨g, table, r⟩) batch := by
  obtain ⟨id, known, collected⟩ := tableRoutes_collected h
  have each := (List.forall₂_and_left ..).mpr ⟨none, forall₂_of_collectOk collected⟩
  rw [List.forall₂_map_left_iff]
  exact each.imp fun r route ⟨faultless, made⟩ => follows_of_gatewayRoute faultless known made

/-- The routes of a unit follow what is written for it. -/
theorem follows_of_gatewayRoutes (faultless : t.Faultless) {routes : List GatewayRoute}
    (h : m.gatewayRoutes t = .ok routes) :
    List.Forall₂ m.Follows (t.writtenRoutes m.scope) routes := by
  obtain ⟨batches, collected, rfl⟩ := gatewayRoutes_collected h
  have none : ∀ p ∈ t.ownTables m.scope, ∀ r ∈ p.2.routes,
      Topology.staticRouteFaults p.1 p.2 r = [] := fun p hp r hr =>
    faultless.writtenRoute_faults (Topology.mem_writtenRoutes (w := ⟨p.1, p.2, r⟩) |>.mpr ⟨hp, hr⟩)
  rw [tables_flatMap] at collected
  have each := (List.forall₂_and_left ..).mpr ⟨none, forall₂_of_collectOk collected⟩
  rw [Topology.writtenRoutes, List.flatMap_def]
  refine List.rel_flatten (List.forall₂_map_left_iff.mpr ?_)
  exact each.imp fun p batch ⟨faultless, made⟩ => follows_of_tableRoutes faultless made

/-! ## Targets of which the owner's account is named -/

/-- A target that names its owner's account is at most one attachment of the map. -/
theorem length_targets_le_one {scope : Scope} {gateways : List String}
    {tables : List (String × String)} {as : List Attachment}
    (held : m.Holds scope gateways tables as) {account : String}
    (given : target.account = some account) : (m.targets g target).length ≤ 1 := by
  have keyed : ∀ key ∈ (m.targets g target).map (·.1),
      key = Key.attachment g.name account target.name := by
    intro key hkey
    obtain ⟨e, he, rfl⟩ := List.mem_map.mp hkey
    obtain ⟨found, names⟩ := mem_targets.mp he
    rw [← held.key_of_found found, Attachment.key, names.gateway, names.child,
      names.owner account given]
  have distinct : ((m.targets g target).map (·.1)).Nodup :=
    m.attachments.nodup_keys.sublist (List.filter_sublist.map _)
  rw [List.eq_replicate_of_mem keyed, List.nodup_replicate, List.length_map] at distinct
  exact distinct

/-- A route of which the target names its owner's account does not fail for several matches. -/
theorem routeAction_ne_several {v : Vantage} {s s' : Run} (run : (build v t).run s = .ok m s')
    (named : r.attachment = some target) {account : String}
    (given : target.account = some account) (kind : AttachmentKind) (child : String)
    (place : Scope) :
    m.routeAction g r ≠ .error (.misconfigured (.severalRouteTargets kind child) place) := by
  intro failed
  obtain ⟨ds, -, held⟩ := build_holds run
  obtain ⟨target', named', cause⟩ := routeAction_error failed
  obtain rfl : target = target' := Option.some.inj (named.symm.trans named')
  rcases cause with ⟨-, other⟩ | ⟨several, -⟩
  · simp at other
  · have := length_targets_le_one held (g := g) given
    omega

/-- The stage fails for several matches only where a target does not name its owner's account. -/
theorem target_of_several {v : Vantage} {s s' : Run} (run : (build v t).run s = .ok m s')
    {kind : AttachmentKind} {child : String} {place : Scope}
    (h : m.gatewayRoutes t = .error (.misconfigured (.severalRouteTargets kind child) place)) :
    ∃ w ∈ t.writtenRoutes m.scope, w.route.attachment = some ⟨kind, child, none⟩ ∧
      1 < (m.targets w.gateway ⟨kind, child, none⟩).length := by
  obtain ⟨g, own, table, defined, ⟨-, other⟩ | ⟨id, r, hr, failed⟩⟩ := gatewayRoutes_error_cases h
  · simp at other
  · have written := Topology.mem_writtenRoutes (w := ⟨g, table, r⟩) |>.mpr
      ⟨Topology.mem_ownTables.mpr ⟨own, defined⟩, hr⟩
    rcases gatewayRoute_error_cases failed with destination | action
    · obtain ⟨-, -, other⟩ := routeDestination_error destination
      simp at other
    · obtain ⟨target, named, ⟨-, other⟩ | ⟨several, same⟩⟩ := routeAction_error action
      · simp at other
      · obtain ⟨⟨rfl, rfl⟩, -⟩ : (kind = target.kind ∧ child = target.name) ∧ place = m.scope := by
          simpa using same
        have unnamed : target.account = none := by
          cases given : target.account with
          | none => rfl
          | some account => exact (routeAction_ne_several run named given _ _ _ action).elim
        have all : target = ⟨target.kind, target.name, none⟩ := by rw [← unnamed]
        exact ⟨_, written, named.trans (congrArg some all), all ▸ several⟩

/-! ## The whole -/

/-- In a valid topology the static routes that a unit plans are those that are written for it,
in their order, and each follows the description. A route of which the target names its owner's
account does not fail for several matches, and neither does the stage for its sake. -/
theorem gatewayRoutes_follow (valid : t.validate = .ok ()) {v : Vantage} {s s' : Run}
    (run : (build v t).run s = .ok m s') :
    m.scope = v.caller ∧
      (∀ routes, m.gatewayRoutes t = .ok routes →
        List.Forall₂ m.Follows (t.writtenRoutes v.caller) routes) ∧
      (∀ g r target account, r.attachment = some target → target.account = some account →
        ∀ kind child place,
          m.routeAction g r ≠ .error (.misconfigured (.severalRouteTargets kind child) place)) ∧
      ∀ kind child place,
        m.gatewayRoutes t = .error (.misconfigured (.severalRouteTargets kind child) place) →
        ∃ w ∈ t.writtenRoutes v.caller, w.route.attachment = some ⟨kind, child, none⟩ ∧
          1 < (m.targets w.gateway ⟨kind, child, none⟩).length := by
  obtain ⟨ds, -, held⟩ := build_holds run
  have mine : m.scope = v.caller := held.scope
  have faultless := Topology.faultless_of_validate valid
  rw [← mine]
  exact ⟨rfl, fun routes => follows_of_gatewayRoutes faultless,
    fun _ _ _ _ named given => routeAction_ne_several run named given,
    fun _ _ _ => target_of_several run⟩

end UnitMap

/-- A gateway with a route to a VPC of two accounts, of which it names one, and a route that
drops what a prefix list matches. -/
def Topology.sampleStatics : Topology where
  settings := sample.settings
  accounts := sample.accounts
  network :=
    { gateways :=
        [{ name := "Core", account := "Network", region := "us-east-1"
           routeTables :=
             [{ name := "hub"
                routes :=
                  [⟨some "10.0.0.0/16", none, false, some ⟨.vpc, "App", some "Workload"⟩⟩,
                    ⟨none, some "corp", true, none⟩] }] }]
      vpcs :=
        [{ name := "App", region := "us-east-1"
           placement := .targets { accounts := ["Network", "Workload"] }
           cidrs := ["10.0.0.0/16"], ipamPool := none
           attachments := [{ name := "App-Core", gateway := ⟨"Core", "Network"⟩ }] }]
      prefixLists := [⟨"corp", ["Network"], ["us-east-1"], []⟩] }

/-- Both routes are planned, and the first leads to the one of the two attachments that it
names. -/
theorem UnitMap.gatewayRoutes_follow_sample :
    Topology.sampleStatics.validate = .ok () ∧
    ∃ m s routes, (UnitMap.build (Topology.sampleStatics.vantage ⟨"Network", "us-east-1"⟩
        (.fixed fun _ => .value "id")) .sampleStatics).run {} = .ok m s ∧
      m.gatewayRoutes .sampleStatics = .ok routes ∧
      m.attachments.keys = ["Core_Network_App", "Core_Workload_App"] ∧
      routes.map (fun r => (r.destination, r.action)) =
        [(.cidr "10.0.0.0/16", .forward "Core_Workload_App" "id"),
          (.prefixList "corp" "id", .blackhole)] ∧
      List.Forall₂ m.Follows (Topology.sampleStatics.writtenRoutes ⟨"Network", "us-east-1"⟩)
        routes := by
  have mapped : (UnitMap.build (Topology.sampleStatics.vantage ⟨"Network", "us-east-1"⟩
      (.fixed fun _ => .value "id")) .sampleStatics).comesTo (fun m => decide
        (m.attachments.keys = ["Core_Network_App", "Core_Workload_App"] ∧
          ((m.gatewayRoutes .sampleStatics).map fun routes =>
            routes.map fun r => (r.destination, r.action)) =
          .ok [(.cidr "10.0.0.0/16", .forward "Core_Workload_App" "id"),
            (.prefixList "corp" "id", .blackhole)])) = true := by
    decide +kernel
  obtain ⟨m, s, run, check⟩ := Lookup.exists_of_comesTo mapped
  obtain ⟨keys, planned⟩ := of_decide_eq_true check
  have valid : Topology.sampleStatics.validate = .ok () := rfl
  cases outcome : m.gatewayRoutes .sampleStatics with
  | error e => simp [outcome, Except.map] at planned
  | ok routes =>
    rw [outcome] at planned
    exact ⟨valid, m, s, routes, run, outcome, keys, Except.ok.inj planned,
      (gatewayRoutes_follow valid run).2.1 routes outcome⟩

end Interlink
