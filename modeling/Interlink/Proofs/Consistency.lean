import Interlink.Proofs.ConnectionKeys
import Interlink.Proofs.EdgeIds
import Interlink.Proofs.PeeringRoutes

/-!
# Plans are consistent in themselves

A plan is put together from five stages, each of which keeps keys of its own. What the
parts say about each other holds in every plan, for every topology and every backend,
whether the topology is valid or not: `Plan.Consistent` lists it. Keys do not repeat
within a plan, what refers to an attachment or a connection by its key refers to one
that the plan lists, and everything belongs to the scope of the plan.

Each stage gives its part. Edges are planned one after the other, and the keys asked for
so far are what keeps the next one new (`Requests`). A route over a connection comes of
the first entry of its key (`RouteEntry.nodup_newFrom`). The attachments are those of
the map, whose order is a field of the map.
-/

namespace Interlink

/-! ## What a consistent plan satisfies -/

/-- The keys of the edges of a sort that a topology leaves to others. -/
def ExternalEdges.keys (e : ExternalEdges) : EdgeKind → List String
  | .association => e.associations
  | .propagation => e.propagations

/-- What the parts of a plan say about each other. -/
structure Plan.Consistent (p : Plan) (external : ExternalEdges) : Prop where
  /-- Attachments stand in the order of their keys. -/
  ascending : p.attachments.Pairwise fun a b => a.key < b.key
  attachments : (p.attachments.map (·.key)).Nodup
  edges : ∀ kind, ((p.edges kind).map (·.key)).Nodup
  /-- No edge is planned that is left to others. -/
  ours : ∀ kind, ∀ e ∈ p.edges kind, e.key ∉ external.keys kind
  /-- An edge starts at a listed attachment, with the id of the latter. -/
  attached : ∀ kind, ∀ e ∈ p.edges kind, ∃ a ∈ p.attachments,
    a.key = e.attachmentKey ∧ a.id = e.attachmentId
  /-- A route that forwards leads to a listed attachment, with the id of the latter. -/
  forwarded : ∀ r ∈ p.gatewayRoutes, ∀ key id, r.action = .forward key id →
    ∃ a ∈ p.attachments, a.key = key ∧ a.id = id
  /-- No two routes have one key, whether the unit writes them or not. -/
  routes : (p.peering.routes.map (·.key) ++ p.peering.crossAccountRoutes.map (·.key)).Nodup
  connected : (∀ r ∈ p.peering.routes, ∃ c ∈ p.peering.connections, c.key = r.peeringKey) ∧
    ∀ r ∈ p.peering.crossAccountRoutes, ∃ c ∈ p.peering.connections, c.key = r.peeringKey
  published : ∀ q ∈ p.peering.publications, ∃ c ∈ p.peering.connections, c.key = q.resourceKey
  /-- The handler has the roles of all routes that are written elsewhere. -/
  handled : ∀ r ∈ p.peering.crossAccountRoutes, ∃ h, p.peering.handler = some h ∧
    r.roleName ∈ h.roleNames
  /-- Whatever the unit creates it creates in its own scope. -/
  edgeScopes : ∀ kind, ∀ e ∈ p.edges kind, e.scope = p.metadata.scope
  gatewayScopes : ∀ r ∈ p.gatewayRoutes, r.scope = p.metadata.scope
  routeScopes : ∀ r ∈ p.peering.routes, r.scope = p.metadata.scope
  ruleScopes : ∀ a ∈ p.ruleAssociations, a.scope = p.metadata.scope
  handlerScope : ∀ h ∈ p.peering.handler, h.scope = p.metadata.scope

/-! ## Edges -/

namespace EdgeKeys

theorem contains_add (s : EdgeKeys) (kind kind' : EdgeKind) (key key' : String) :
    (s.add kind key).contains kind' key' ↔
      (kind' = kind ∧ key' = key) ∨ s.contains kind' key' := by
  cases kind <;> cases kind' <;> simp [add, contains, NameSet.contains_add]

theorem contains_ofExternal {external : ExternalEdges} {kind : EdgeKind} {key : String} :
    (ofExternal external).contains kind key ↔ key ∈ external.keys kind := by
  cases kind <;> exact NameSet.contains_ofNames

end EdgeKeys

/-- Some edges of a sort have been planned, one after the other: none is left to others, and each
had a key that had not been asked for, which has been from then on. -/
structure Requests (external : EdgeKeys) (kind : EdgeKind) (noted : EdgeKeys) (edges : List Edge)
    (noted' : EdgeKeys) : Prop where
  kept : ∀ key, noted.contains kind key → noted'.contains kind key
  ours : ∀ e ∈ edges, external.contains kind e.key = false
  new : ∀ e ∈ edges, noted.contains kind e.key = false
  recorded : ∀ e ∈ edges, noted'.contains kind e.key
  distinct : (edges.map (·.key)).Nodup

section Requests

variable {external : EdgeKeys} {kind : EdgeKind} {noted noted' noted'' : EdgeKeys}
  {edges edges' : List Edge}

theorem requests_nil : Requests external kind noted [] noted :=
  ⟨fun _ h => h, by simp, by simp, by simp, by simp⟩

theorem Requests.append (h : Requests external kind noted edges noted')
    (h' : Requests external kind noted' edges' noted'') :
    Requests external kind noted (edges ++ edges') noted'' where
  kept := fun key there => h'.kept key (h.kept key there)
  ours := by
    intro e he
    rcases List.mem_append.mp he with he | he
    · exact h.ours e he
    · exact h'.ours e he
  new := by
    intro e he
    rcases List.mem_append.mp he with he | he
    · exact h.new e he
    · -- what is not noted later was not noted before
      by_contra there
      have later := h'.new e he
      rw [h.kept e.key (by simpa using there)] at later
      exact nomatch later
  recorded := by
    intro e he
    rcases List.mem_append.mp he with he | he
    · exact h'.kept _ (h.recorded e he)
    · exact h'.recorded e he
  distinct := by
    rw [List.map_append, List.nodup_append']
    refine ⟨h.distinct, h'.distinct, ?_⟩
    intro key first second
    obtain ⟨e, he, rfl⟩ := List.mem_map.mp first
    obtain ⟨e', he', same⟩ := List.mem_map.mp second
    have known := h.recorded e he
    rw [← same, h'.new e' he'] at known
    exact nomatch known

end Requests

namespace UnitMap

variable {m : UnitMap} {external : EdgeKeys} {kind : EdgeKind} {key : String}
  {noted noted' : EdgeKeys}

theorem edge_key {table : String} {e : Edge} (h : m.edge kind key table = .ok e) :
    e.key = Key.edge key table ∧ e.scope = m.scope := by
  obtain ⟨a, id, -, -, rfl⟩ := edge_ok h
  exact ⟨rfl, rfl⟩

theorem planEdge_requests {table : String} {batch : EdgeBatch}
    (run : (m.planEdge external kind key table).run noted = .ok batch noted') :
    Requests external kind noted batch.edges noted' ∧ ∀ e ∈ batch.edges, e.scope = m.scope := by
  rcases planEdge_cases run with ⟨-, rfl, rfl⟩ | ⟨ours, new, rfl, e, made, rfl⟩
  · exact ⟨requests_nil, by simp⟩
  · obtain ⟨keyed, scope⟩ := edge_key made
    refine ⟨⟨?_, ?_, ?_, ?_, by simp⟩, by simpa using scope⟩
    · intro k there
      exact (EdgeKeys.contains_add ..).mpr (.inr there)
    · simpa [keyed] using ours
    · simpa [keyed] using new
    · simp [EdgeKeys.contains_add, keyed]

theorem planAttachments_requests {batch : EdgeBatch}
    (run : (m.planAttachments external kind m.owned).run noted = .ok batch noted') :
    Requests external kind noted batch.edges noted' ∧ ∀ e ∈ batch.edges, e.scope = m.scope := by
  refine planAttachments_gathers
    (P := fun _ noted batch noted' => Requests external kind noted batch.edges noted' ∧
      ∀ e ∈ batch.edges, e.scope = m.scope) ?nothing ?append ?single run
  case nothing => exact fun _ => ⟨requests_nil, by simp⟩
  case append =>
    rintro ds ds' batch batch' noted noted' noted'' ⟨first, scopes⟩ ⟨others, scopes'⟩
    exact ⟨first.append others, List.forall_mem_append.mpr ⟨scopes, scopes'⟩⟩
  case single =>
    intro x _ table _ batch noted noted' one
    exact planEdge_requests one

end UnitMap

/-- The edges of one sort. -/
def EdgeGraph.edges (g : EdgeGraph) : EdgeKind → List Edge
  | .association => g.associations.edges
  | .propagation => g.propagations.edges

theorem Plan.edges_assemble (metadata : PlanMetadata) (m : UnitMap) (graph : EdgeGraph)
    (routes : List GatewayRoute) (peering : PeeringPlan) (rules : List RuleAssociation)
    (kind : EdgeKind) :
    (assemble metadata m graph routes peering rules).edges kind = graph.edges kind := by
  cases kind <;> rfl

/-- The edges of a sort that a unit plans have keys of their own and its scope. -/
theorem Plan.edges_requested {m : UnitMap} {t : Topology} {graph : EdgeGraph}
    (planned : edgesOf m t = .ok graph) (kind : EdgeKind) :
    ((graph.edges kind).map (·.key)).Nodup ∧
      (∀ e ∈ graph.edges kind, e.key ∉ t.network.external.keys kind) ∧
      ∀ e ∈ graph.edges kind, e.scope = m.scope := by
  obtain ⟨between, noted, one, other⟩ := edgesOf_ok planned
  have outcome {kind : EdgeKind} {batch : EdgeBatch} {noted noted' : EdgeKeys}
      (run : (m.planAttachments (.ofExternal t.network.external) kind m.owned).run noted =
        .ok batch noted') :
      (batch.edges.map (·.key)).Nodup ∧
        (∀ e ∈ batch.edges, e.key ∉ t.network.external.keys kind) ∧
        ∀ e ∈ batch.edges, e.scope = m.scope := by
    obtain ⟨requests, scopes⟩ := UnitMap.planAttachments_requests run
    refine ⟨requests.distinct, ?_, scopes⟩
    intro e he left
    have ours := requests.ours e he
    rw [EdgeKeys.contains_ofExternal.mpr left] at ours
    exact nomatch ours
  cases kind with
  | association => exact outcome one
  | propagation => exact outcome other

/-! ## Attachments -/

namespace Plan

variable {m : UnitMap} {key : String} {a : ResolvedAttachment}

theorem ascending_summaries (m : UnitMap) :
    (summaries m).Pairwise fun a b => a.key < b.key := by
  unfold summaries
  rw [List.pairwise_map]
  exact m.attachments.ascending

theorem summary_of_entry (there : (key, a) ∈ m.attachments.entries) :
    ∃ summary ∈ summaries m, summary.key = key ∧ summary.id = a.id :=
  ⟨_, List.mem_map_of_mem there, rfl, rfl⟩

/-- An edge of a unit starts at a listed attachment, with the id of the latter. -/
theorem edges_attached {t : Topology} {graph : EdgeGraph} (planned : edgesOf m t = .ok graph)
    (kind : EdgeKind) : ∀ e ∈ graph.edges kind,
      ∃ summary ∈ summaries m, summary.key = e.attachmentKey ∧ summary.id = e.attachmentId := by
  intro e he
  obtain ⟨associations, propagations⟩ := edges_drawn planned
  have drawn : ∃ a, m.Draws e a := by
    cases kind with
    | association => exact associations e he
    | propagation => exact propagations e he
  obtain ⟨a, draws⟩ := drawn
  rw [draws.attachmentId]
  exact summary_of_entry (List.mem_filter.mp draws.owned).1

end Plan

/-! ## Static routes -/

namespace UnitMap

variable {m : UnitMap} {t : Topology}

/-- A route that forwards leads to an attachment of the map. -/
theorem routeAction_forward {g : Gateway} {r : StaticRoute} {key id : String}
    (h : m.routeAction g r = .ok (.forward key id)) :
    ∃ a, (key, a) ∈ m.attachments.entries ∧ a.id = id := by
  unfold routeAction at h
  cases named : r.attachment with
  | none => simp [named] at h
  | some target =>
    simp only [named] at h
    split at h
    · simp at h
    · next key' a only =>
      simp only [Except.ok.injEq, RouteAction.forward.injEq] at h
      obtain ⟨rfl, rfl⟩ := h
      have listed : (key', a) ∈ m.targets g target := by
        rw [only]
        exact List.mem_singleton_self _
      exact ⟨a, (List.mem_filter.mp listed).1, rfl⟩
    · simp at h

/-- A static route that is planned is made of its destination and its action. -/
theorem gatewayRoute_eq_ok {g : Gateway} {table tableId : String} {r : StaticRoute}
    {route : GatewayRoute} (h : m.gatewayRoute g table tableId r = .ok route) :
    ∃ destination action, m.routeDestination r = .ok destination ∧
      m.routeAction g r = .ok action ∧
      route = ⟨Key.gatewayRoute g.name table destination.label, g.name, table, tableId,
        destination, action, m.scope⟩ := by
  unfold gatewayRoute at h
  cases destination : m.routeDestination r with
  | error e => simp [destination, bind, Except.bind] at h
  | ok d =>
    cases action : m.routeAction g r with
    | error e => simp [destination, action, bind, Except.bind] at h
    | ok act =>
      simp only [destination, action, bind, Except.bind, pure, Except.pure, Except.ok.injEq] at h
      exact ⟨d, act, rfl, rfl, h.symm⟩

theorem gatewayRoute_ok {g : Gateway} {table tableId : String} {r : StaticRoute}
    {route : GatewayRoute} (h : m.gatewayRoute g table tableId r = .ok route) :
    m.routeDestination r = .ok route.destination ∧ m.routeAction g r = .ok route.action ∧
      route.scope = m.scope := by
  obtain ⟨d, a, destination, action, rfl⟩ := gatewayRoute_eq_ok h
  exact ⟨destination, action, rfl⟩

/-- The static routes of a unit are those of its route tables. -/
theorem gatewayRoutes_collected {routes : List GatewayRoute}
    (h : m.gatewayRoutes t = .ok routes) :
    ∃ batches, collectOk ((ownGateways t m.scope).flatMap fun g =>
      g.routeTables.map (m.tableRoutes g)) = .ok batches ∧ routes = batches.flatten := by
  unfold gatewayRoutes at h
  cases collected : collectOk ((ownGateways t m.scope).flatMap fun g =>
      g.routeTables.map (m.tableRoutes g)) with
  | error e => simp [collected, Except.map] at h
  | ok batches =>
    rw [collected] at h
    exact ⟨batches, rfl, (Except.ok.inj h).symm⟩

/-- The static routes of a table are those that it lists, each with the table's id. -/
theorem tableRoutes_collected {g : Gateway} {table : GatewayRouteTable}
    {batch : List GatewayRoute} (h : m.tableRoutes g table = .ok batch) :
    ∃ id, m.routeTableId? g.region g.name table.name = some id ∧
      collectOk (table.routes.map (m.gatewayRoute g table.name id)) = .ok batch := by
  unfold tableRoutes at h
  split at h
  · exact nomatch h
  · next id found => exact ⟨id, found, h⟩

/-- A static route of a unit comes of one in the description. -/
theorem gatewayRoutes_made {routes : List GatewayRoute} (h : m.gatewayRoutes t = .ok routes)
    {route : GatewayRoute} (hr : route ∈ routes) :
    ∃ g ∈ ownGateways t m.scope, ∃ table ∈ g.routeTables, ∃ id, ∃ r ∈ table.routes,
      m.gatewayRoute g table.name id r = .ok route := by
  obtain ⟨batches, collected, rfl⟩ := gatewayRoutes_collected h
  obtain ⟨batch, hbatch, hroute⟩ := List.mem_flatten.mp hr
  obtain ⟨g, hg, ofGateway⟩ := List.mem_flatMap.mp (mem_of_collectOk collected hbatch)
  obtain ⟨table, htable, ofTable⟩ := List.mem_map.mp ofGateway
  obtain ⟨id, -, made⟩ := tableRoutes_collected ofTable
  obtain ⟨r, hr, one⟩ := List.mem_map.mp (mem_of_collectOk made hroute)
  exact ⟨g, hg, table, htable, id, r, hr, one⟩

/-- All static routes of a unit that plans its static routes are planned. -/
theorem gatewayRoute_of_written {routes : List GatewayRoute}
    (h : m.gatewayRoutes t = .ok routes) {g : Gateway} (hg : g ∈ ownGateways t m.scope)
    {table : GatewayRouteTable} (htable : table ∈ g.routeTables) {r : StaticRoute}
    (hr : r ∈ table.routes) :
    ∃ id, ∃ route ∈ routes, m.gatewayRoute g table.name id r = .ok route := by
  obtain ⟨batches, collected, rfl⟩ := gatewayRoutes_collected h
  obtain ⟨batch, hbatch, ofTable⟩ := ok_of_collectOk collected
    (List.mem_flatMap.mpr ⟨g, hg, List.mem_map_of_mem htable⟩)
  obtain ⟨id, -, made⟩ := tableRoutes_collected ofTable
  obtain ⟨route, hroute, one⟩ := ok_of_collectOk made (List.mem_map_of_mem hr)
  exact ⟨id, route, List.mem_flatten.mpr ⟨batch, hbatch, hroute⟩, one⟩

/-- A static route of a unit has the scope of the map, and leads to an attachment of the map
where it forwards. -/
theorem gatewayRoutes_ok {routes : List GatewayRoute} (h : m.gatewayRoutes t = .ok routes)
    {route : GatewayRoute} (hr : route ∈ routes) :
    route.scope = m.scope ∧ ∀ key id, route.action = .forward key id →
      ∃ a, (key, a) ∈ m.attachments.entries ∧ a.id = id := by
  obtain ⟨g, -, table, -, tableId, r, -, made⟩ := gatewayRoutes_made h hr
  obtain ⟨-, action, scope⟩ := gatewayRoute_ok made
  refine ⟨scope, fun key id forward => ?_⟩
  rw [forward] at action
  exact routeAction_forward action

end UnitMap

/-! ## Routes over peerings -/

/-- Of entries, the ones that come first under their keys have different keys. -/
theorem RouteEntry.nodup_newFrom (earlier es : List RouteEntry) :
    ((newFrom earlier es).map key).Nodup := by
  have same (k : String) : (noteAll .empty earlier).contains k ↔ k ∈ earlier.map key := by
    rw [contains_noteAll]
    exact or_iff_right Bool.false_ne_true
  rw [newFrom_eq_pending same]
  exact nodup_pending

namespace Vantage

variable {v : Vantage} {t : Topology} {s : Run} {es : List RouteEntry} {b : RouteBatch}

/-- Routes have the keys of the entries that they come of. -/
theorem Realizes.keys (h : v.Realizes t s es b) :
    (b.routes.map (·.key) ++ b.crossAccountRoutes.map (·.key)).Perm (es.map RouteEntry.key) := by
  have direct : b.routes.map (·.key) = (es.filter (·.isDirect v)).map RouteEntry.key := by
    rw [← List.forall₂_eq_eq_eq, List.forall₂_map_left_iff, List.forall₂_map_right_iff]
    exact h.direct.imp fun _ _ writes => writes.key
  have delegated : b.crossAccountRoutes.map (·.key) =
      (es.filter (!·.isDirect v)).map RouteEntry.key := by
    rw [← List.forall₂_eq_eq_eq, List.forall₂_map_left_iff, List.forall₂_map_right_iff]
    exact h.delegated.imp fun _ _ delegates => delegates.key
  rw [direct, delegated, ← List.map_append]
  exact (List.filter_append_perm (·.isDirect v) es).map _

end Vantage

namespace PeeringPlan

variable {v : Vantage} {t : Topology} {s s' : Run} {p : PeeringPlan}

theorem connection_of_entry {cs : List Connection} {e : RouteEntry}
    (he : e ∈ routeEntries t cs) : ∃ c ∈ cs, c.key = e.connectionKey := by
  obtain ⟨c, hc, side, he⟩ := mem_routeEntries he
  obtain ⟨vpc, r, -, -, rfl⟩ := Vantage.mem_entriesOn he
  exact ⟨c, hc, rfl⟩

/-- What a plan of peerings has apart from its routes. -/
theorem build_ok (run : (build v t).run s = .ok p s') :
    p.handler = handlerFor v.caller p.crossAccountRoutes ∧
      p.publications = p.connections.flatMap (publicationsOf v.pathPrefix) := by
  obtain ⟨cs, s₁, -, run⟩ := run_bind_ok.mp run
  obtain ⟨cs₁, s₂, -, run⟩ := run_bind_ok.mp run
  obtain ⟨⟨cs₂, requested⟩, s₃, -, run⟩ := run_bind_ok.mp run
  obtain ⟨⟨cs₃, accepted⟩, s₄, -, last⟩ := run_bind_ok.mp run
  obtain ⟨rfl, -⟩ := run_pure_ok.mp last
  exact ⟨rfl, rfl⟩

theorem handlerFor_scope {scope : Scope} {routes : List CrossAccountRoute} {h : RouteHandler}
    (handler : handlerFor scope routes = some h) : h.scope = scope := by
  unfold handlerFor at handler
  split at handler
  · exact nomatch handler
  · cases handler
    rfl

/-- The handler of some routes has their roles. -/
theorem handlerFor_roles {scope : Scope} {routes : List CrossAccountRoute} {r : CrossAccountRoute}
    (hr : r ∈ routes) : ∃ h, handlerFor scope routes = some h ∧ r.roleName ∈ h.roleNames := by
  have some : routes.isEmpty = false := by
    cases routes with
    | nil => exact nomatch hr
    | cons _ _ => rfl
  refine ⟨⟨scope, (NameSet.ofNames (routes.map (·.roleName))).keys⟩, by simp [handlerFor, some], ?_⟩
  exact SortedMap.mem_keys.mpr (NameSet.contains_ofNames.mpr (List.mem_map_of_mem hr))

/-- What is published is published for a connection of the plan. -/
theorem published_of_build (run : (build v t).run s = .ok p s') :
    ∀ q ∈ p.publications, ∃ c ∈ p.connections, c.key = q.resourceKey := by
  rw [(build_ok run).2]
  intro q hq
  obtain ⟨c, hc, ofConnection⟩ := List.mem_flatMap.mp hq
  obtain ⟨side, rfl⟩ := mem_publicationsOf.mp ofConnection
  exact ⟨c, hc, rfl⟩

/-- A route that is written elsewhere has its role with the handler. -/
theorem handled_of_build (run : (build v t).run s = .ok p s') {r : CrossAccountRoute}
    (hr : r ∈ p.crossAccountRoutes) : ∃ h, p.handler = some h ∧ r.roleName ∈ h.roleNames := by
  rw [(build_ok run).1]
  exact handlerFor_roles hr

theorem handler_scope (run : (build v t).run s = .ok p s') {h : RouteHandler}
    (handler : h ∈ p.handler) : h.scope = v.caller := by
  rw [(build_ok run).1] at handler
  exact handlerFor_scope handler

end PeeringPlan

/-! ## Associations of rules -/

namespace RuleAssociation

variable {v : Vantage} {t : Topology}

/-- An association belongs to a unit, and is named for its rule and its VPC. -/
structure Named (scope : Scope) (a : RuleAssociation) : Prop where
  key : a.key = Key.resolverRuleAssociation a.rule a.vpc scope.account
  logicalId : a.logicalId = a.vpc ++ "-" ++ a.rule ++ "-rule-association"
  scope : a.scope = scope

theorem planRules_named {vpc : Vpc} {vpcId : String} :
    ∀ {names : List String} {as : List RuleAssociation} {s s' : Run},
      (planRules v t vpc vpcId names).run s = .ok as s' → ∀ a ∈ as, a.Named v.caller
  | [], _, _, _, run => by
    obtain ⟨rfl, -⟩ := run_pure_ok.mp run
    simp
  | name :: rest, _, _, _, run => by
    obtain ⟨a, s₁, one, run⟩ := run_bind_ok.mp run
    obtain ⟨others, s₂, more, last⟩ := run_bind_ok.mp run
    obtain ⟨rfl, -⟩ := run_pure_ok.mp last
    obtain ⟨rule, s₃, -, one⟩ := run_bind_ok.mp one
    obtain ⟨id, s₄, -, made⟩ := run_bind_ok.mp one
    obtain ⟨rfl, -⟩ := run_pure_ok.mp made
    exact List.forall_mem_cons.mpr ⟨⟨rfl, rfl, rfl⟩, planRules_named more⟩

theorem planVpcs_named :
    ∀ {vpcs : List Vpc} {as : List RuleAssociation} {s s' : Run},
      (planVpcs v t vpcs).run s = .ok as s' → ∀ a ∈ as, a.Named v.caller
  | [], _, _, _, run => by
    obtain ⟨rfl, -⟩ := run_pure_ok.mp run
    simp
  | vpc :: rest, _, _, _, run => by
    obtain ⟨id, s₁, -, run⟩ := run_bind_ok.mp run
    obtain ⟨own, s₂, one, run⟩ := run_bind_ok.mp run
    obtain ⟨others, s₃, more, last⟩ := run_bind_ok.mp run
    obtain ⟨rfl, -⟩ := run_pure_ok.mp last
    exact List.forall_mem_append.mpr ⟨planRules_named one, planVpcs_named more⟩

end RuleAssociation

/-! ## The whole -/

namespace PeeringPlan

variable {v : Vantage} {t : Topology} {s : Run} {p : PeeringPlan}

/-- A route of a plan comes of an entry that leads over a connection of the plan. -/
theorem Serves.connected (h : p.Serves v t s) :
    (∀ r ∈ p.routes, ∃ c ∈ p.connections, c.key = r.peeringKey) ∧
      ∀ r ∈ p.crossAccountRoutes, ∃ c ∈ p.connections, c.key = r.peeringKey := by
  have listed {e : RouteEntry} (he : e ∈ RouteEntry.newFrom [] (routeEntries t p.connections)) :
      ∃ c ∈ p.connections, c.key = e.connectionKey :=
    connection_of_entry ((RouteEntry.newFrom_sublist ..).subset he)
  constructor
  · intro r hr
    obtain ⟨e, he, writes⟩ := exists_of_forall₂ h.first.direct.flip hr
    rw [writes.connection]
    exact listed (List.mem_filter.mp he).1
  · intro r hr
    obtain ⟨e, he, delegates⟩ := exists_of_forall₂ h.first.delegated.flip hr
    rw [delegates.connection]
    exact listed (List.mem_filter.mp he).1

theorem Serves.scopes (h : p.Serves v t s) : ∀ r ∈ p.routes, r.scope = v.caller := by
  intro r hr
  obtain ⟨e, he, writes⟩ := exists_of_forall₂ h.first.direct.flip hr
  rw [writes.scope]
  exact beq_iff_eq.mp (List.mem_filter.mp he).2

/-- No two routes of a plan have one key. -/
theorem Serves.nodup_keys (h : p.Serves v t s) :
    (p.routes.map (·.key) ++ p.crossAccountRoutes.map (·.key)).Nodup :=
  h.first.keys.nodup_iff.mpr (RouteEntry.nodup_newFrom [] _)

end PeeringPlan

/-- Every plan is consistent in itself, and is one of its own scope. -/
theorem plan_consistent {t : Topology} {scope : Scope} {backend : Backend} {p : Plan} {s : Run}
    (planned : t.plan scope backend = .ok p s) :
    p.metadata.scope = scope ∧ p.Consistent t.network.external := by
  have serves := Plan.serves_of_build rfl planned
  obtain ⟨m, s₁, graph, routes, peering, s₂, rules, mapped, drawn, static, built, associated,
    rfl⟩ := Plan.build_ok planned
  obtain ⟨ds, -, held⟩ := UnitMap.build_holds mapped
  have mine : m.scope = scope := held.scope
  refine ⟨rfl, {
    ascending := Plan.ascending_summaries m
    attachments := Plan.nodup_summaries m
    edges := ?edges
    ours := ?ours
    attached := ?attached
    forwarded := ?forwarded
    routes := serves.nodup_keys
    connected := serves.connected
    published := PeeringPlan.published_of_build built
    handled := fun r hr => PeeringPlan.handled_of_build built hr
    edgeScopes := ?edgeScopes
    gatewayScopes := ?gatewayScopes
    routeScopes := serves.scopes
    ruleScopes := fun a ha => (RuleAssociation.planVpcs_named associated a ha).scope
    handlerScope := fun h hh => PeeringPlan.handler_scope built hh }⟩
  case edges =>
    intro kind
    rw [Plan.edges_assemble]
    exact (Plan.edges_requested drawn kind).1
  case ours =>
    intro kind
    rw [Plan.edges_assemble]
    exact (Plan.edges_requested drawn kind).2.1
  case attached =>
    intro kind
    rw [Plan.edges_assemble]
    exact Plan.edges_attached drawn kind
  case forwarded =>
    intro r hr key id forward
    obtain ⟨a, there, rfl⟩ := (UnitMap.gatewayRoutes_ok static hr).2 key id forward
    exact Plan.summary_of_entry there
  case edgeScopes =>
    intro kind e he
    rw [Plan.edges_assemble] at he
    exact ((Plan.edges_requested drawn kind).2.2 e he).trans mine
  case gatewayScopes =>
    intro r hr
    exact (UnitMap.gatewayRoutes_ok static hr).1.trans mine

/-- The sample with a static route that forwards to the attached VPC, and with the propagation
of the VPC left to others. -/
def Topology.sampleForwarding : Topology where
  settings := sample.settings
  accounts := sample.accounts
  network :=
    { sample.network with
      gateways :=
        [{ name := "Core", account := "Network", region := "us-east-1"
           routeTables :=
             [{ name := "hub"
                routes := [⟨some "10.0.0.0/16", none, false, some ⟨.vpc, "App", none⟩⟩] },
               { name := "spokes" }] }]
      external := { propagations := ["Core_Workload_App__hub"] } }

/-- The owner of the gateway plans a route that forwards, and the owner of the VPC an edge and
routes of both sorts; the other edge it leaves to others. -/
theorem plan_consistent_sample :
    Topology.sampleForwarding.validate = .ok () ∧
    (∃ p s, Topology.sampleForwarding.plan ⟨"Network", "us-east-1"⟩ (.fixed fun _ => .value "id") =
        .ok p s ∧
      p.gatewayRoutes.map (·.action) = [.forward "Core_Workload_App" "id"] ∧
      p.Consistent Topology.sampleForwarding.network.external) ∧
    ∃ p s, Topology.sampleForwarding.plan ⟨"Workload", "us-east-1"⟩ (.fixed fun _ => .value "id") =
        .ok p s ∧
      (p.associations.length, p.propagations.length, p.skippedEdges.length,
        p.peering.routes.length, p.peering.crossAccountRoutes.length,
        p.ruleAssociations.length) = (1, 0, 1, 1, 1, 1) ∧
      p.Consistent Topology.sampleForwarding.network.external := by
  have network : (Plan.build (Topology.sampleForwarding.vantage ⟨"Network", "us-east-1"⟩
      (.fixed fun _ => .value "id")) .sampleForwarding).comesTo (fun p =>
        decide (p.gatewayRoutes.map (·.action) = [.forward "Core_Workload_App" "id"])) = true := by
    decide +kernel
  have workload : (Plan.build (Topology.sampleForwarding.vantage ⟨"Workload", "us-east-1"⟩
      (.fixed fun _ => .value "id")) .sampleForwarding).comesTo (fun p =>
        decide ((p.associations.length, p.propagations.length, p.skippedEdges.length,
          p.peering.routes.length, p.peering.crossAccountRoutes.length,
          p.ruleAssociations.length) = (1, 0, 1, 1, 1, 1))) = true := by
    decide +kernel
  obtain ⟨p, s, planned, forward⟩ := Lookup.exists_of_comesTo network
  obtain ⟨p', s', planned', counts⟩ := Lookup.exists_of_comesTo workload
  exact ⟨rfl, ⟨p, s, planned, of_decide_eq_true forward, (plan_consistent planned).2⟩, p', s',
    planned', of_decide_eq_true counts, (plan_consistent planned').2⟩

end Interlink
