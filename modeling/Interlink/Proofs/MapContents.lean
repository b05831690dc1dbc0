import Interlink.Proofs.Walks

/-!
# What is in the map of a unit

For every topology, whether it is valid or not, a map that has been built can be relied on
for the following (`UnitMap.Faithful`, `build_faithful`). Its attachments are those that
concern the unit, each under its key and with all that is described of it; none is merged
with another and none overwritten, since an attachment is refused where its key is taken.
The route tables that the unit's attachments name have an id if their gateways define them.
Nothing is recorded for another region, and a route table counts as foreign only if an
attachment of the unit names it on a gateway of another account.

Which keys there are is known (`UnitMap.Holds`). The rest is read off the way a map comes
about: entry by entry, each for a reason that the description gives (`UnitMap.Grown`).
-/

namespace Interlink

namespace UnitMap

variable {v : Vantage} {t : Topology} {m m' : UnitMap} {scope : Scope} {ds : List Attachment}
  {s s' : Run}

/-! ## How a map grows -/

/-- A map that the unit of a scope comes to while it resolves what concerns it, given the
attachments that are described. -/
inductive Grown (t : Topology) (scope : Scope) (ds : List Attachment) : UnitMap → Prop
  | start : Grown t scope ds { scope }
  | ownGateway {m : UnitMap} (h : Grown t scope ds m) {g : Gateway}
      (own : g ∈ ownGateways t scope) (id : String) :
      Grown t scope ds (m.addGateway g.name g.account id)
  | ownTable {m : UnitMap} (h : Grown t scope ds m) {g : Gateway}
      (own : g ∈ ownGateways t scope) {table : GatewayRouteTable} (defined : table ∈ g.routeTables)
      (id : String) : Grown t scope ds (m.addRouteTable g.region g.name table.name id)
  | foreignTable {m : UnitMap} (h : Grown t scope ds m) {a : Attachment} (described : a ∈ ds)
      (relevant : concerns scope a = true) {table : String}
      (needed : table ∈ foreignTables t scope a) (id : String) :
      Grown t scope ds (m.addRemoteRouteTable a.region a.gateway table id)
  | foreignGateway {m : UnitMap} (h : Grown t scope ds m) {a : Attachment} (described : a ∈ ds)
      (relevant : concerns scope a = true) (own : a.owner = scope) (id : String) :
      Grown t scope ds (m.addGateway a.gateway a.gatewayAccount id)
  | attachment {m : UnitMap} (h : Grown t scope ds m) {a : Attachment} (described : a ∈ ds)
      (relevant : concerns scope a = true) (id gatewayId : String) :
      Grown t scope ds (m.addAttachment a.key ⟨id, gatewayId, a⟩)
  | prefixList {m : UnitMap} (h : Grown t scope ds m) {l : PrefixList}
      (defined : l ∈ t.network.prefixLists)
      (deployed : l.isDeployedTo scope.account scope.region = true) (id : String) :
      Grown t scope ds (m.addPrefixList l.name id)

theorem resolveGateway_grown (h : Grown t v.caller ds m) {g : Gateway}
    (own : g ∈ ownGateways t v.caller) (run : (resolveGateway v m g).run s = .ok m' s') :
    Grown t v.caller ds m' := by
  obtain ⟨id, s₁, -, filled⟩ := run_bind_ok.mp run
  refine run_foldlM_ok (fun _ (m : UnitMap) => Grown t v.caller ds m) ?_ (h.ownGateway own id)
    filled
  intro before table c c' s s' defined hc run
  obtain ⟨id, s₂, -, last⟩ := run_bind_ok.mp run
  obtain ⟨rfl, -⟩ := run_pure_ok.mp last
  exact hc.ownTable own defined id

theorem resolveRemoteRouteTables_grown (h : Grown t v.caller ds m) {a : Attachment}
    (described : a ∈ ds) (relevant : concerns v.caller a = true) (own : a.owner = v.caller)
    (foreign : ownsGateway v.caller a = false)
    (run : (resolveRemoteRouteTables v t m a).run s = .ok m' s') : Grown t v.caller ds m' := by
  unfold resolveRemoteRouteTables at run
  split at run
  · obtain ⟨rfl, -⟩ := run_pure_ok.mp run
    exact h
  · next g found =>
    refine run_foldlM_ok (fun _ (m : UnitMap) => Grown t v.caller ds m) ?_ h run
    intro before table c c' s s' named hc run
    unfold resolveRemoteRouteTable at run
    split at run
    · obtain ⟨rfl, -⟩ := run_pure_ok.mp run
      exact hc
    · next missing =>
      obtain ⟨id, s₂, -, last⟩ := run_bind_ok.mp run
      obtain ⟨rfl, -⟩ := run_pure_ok.mp last
      have defined : g.hasRouteTable table = true := by
        by_contra absent
        simp [absent] at missing
      have other : a.gatewayAccount ≠ v.caller.account := by
        simpa [ownsGateway] using foreign
      rw [(Topology.gateway?_some found).2.1]
      exact hc.foreignTable described relevant
        (mem_foreignTables.mpr ⟨own, other, named, g, found, defined⟩) id

theorem resolveAttachment_grown (h : Grown t v.caller ds m) {a : Attachment}
    (described : a ∈ ds) (relevant : concerns v.caller a = true)
    (run : (resolveAttachment v t m a).run s = .ok m' s') : Grown t v.caller ds m' := by
  rw [resolveAttachment_eq] at run
  obtain ⟨_, s₁, -, run⟩ := run_bind_ok.mp run
  obtain ⟨m₁, s₂, tables, run⟩ := run_bind_ok.mp run
  obtain ⟨_, s₃, known, run⟩ := run_bind_ok.mp run
  obtain ⟨id, s₄, -, run⟩ := run_bind_ok.mp run
  have h₁ : Grown t v.caller ds m₁ := by
    split at tables
    · next foreign =>
      obtain ⟨own, other⟩ : a.owner = v.caller ∧ ownsGateway v.caller a = false := by
        simpa using foreign
      exact resolveRemoteRouteTables_grown h described relevant own other tables
    · obtain ⟨rfl, -⟩ := run_pure_ok.mp tables
      exact h
  cases found : m₁.gatewayId? a.gateway a.gatewayAccount with
  | some gatewayId =>
    rw [found] at run
    obtain ⟨rfl, -⟩ := run_pure_ok.mp run
    exact h₁.attachment described relevant id gatewayId
  | none =>
    -- only the owner of an attachment goes on without the gateway's id
    have own : a.owner = v.caller := by
      simpa [found] using (Lookup.run_refuse_ok.mp known).1
    rw [found] at run
    obtain ⟨gatewayId, s₅, -, last⟩ := run_bind_ok.mp run
    obtain ⟨rfl, -⟩ := run_pure_ok.mp last
    exact (h₁.foreignGateway described relevant own gatewayId).attachment described relevant id
      gatewayId

/-- A map that has been built has grown from nothing. -/
theorem build_grown (run : (build v t).run s = .ok m s') :
    ∃ ds, t.attachments v.accounts v.caller = .ok ds ∧ Grown t v.caller ds m := by
  obtain ⟨m₁, s₁, own, run⟩ := run_bind_ok.mp run
  obtain ⟨ds, s₂, described, run⟩ := run_bind_ok.mp run
  obtain ⟨m₂, s₃, attached, listed⟩ := run_bind_ok.mp run
  have h₁ : Grown t v.caller ds m₁ :=
    run_foldlM_ok (fun _ (m : UnitMap) => Grown t v.caller ds m)
      (fun _ g _ _ _ _ own h run => resolveGateway_grown h own run) .start own
  have h₂ : Grown t v.caller ds m₂ := by
    refine run_foldlM_ok (fun _ (m : UnitMap) => Grown t v.caller ds m) ?_ h₁ attached
    intro _ a _ _ _ _ ha h run
    obtain ⟨described, relevant⟩ := List.mem_filter.mp ha
    exact resolveAttachment_grown h described relevant run
  refine ⟨ds, (Lookup.run_ofExcept_ok.mp described).1,
    run_foldlM_ok (fun _ (m : UnitMap) => Grown t v.caller ds m) ?_ h₂ listed⟩
  intro _ l _ _ _ _ hl h run
  obtain ⟨defined, deployed⟩ := List.mem_filter.mp hl
  obtain ⟨id, s₂, -, last⟩ := run_bind_ok.mp run
  obtain ⟨rfl, -⟩ := run_pure_ok.mp last
  exact h.prefixList defined deployed id

/-! ## What every map has in common -/

/-- Nothing is recorded for another region, and what counts as foreign is needed by an
attachment of the unit. -/
structure Confined (m : UnitMap) (t : Topology) (scope : Scope) (ds : List Attachment) : Prop where
  regions : ∀ region, m.routeTables.contains region → region = scope.region
  remote : ∀ key, m.remoteRouteTables.contains key → ∃ d ∈ ds, concerns scope d = true ∧
    ∃ table ∈ foreignTables t scope d, key = Key.routeTable d.gateway table

theorem Confined.addRouteTable (h : m.Confined t scope ds) {region : String}
    (here : region = scope.region) (gateway table id : String) :
    (m.addRouteTable region gateway table id).Confined t scope ds where
  regions := by
    intro other recorded
    rcases (SortedMap.contains_insert ..).mp recorded with rfl | old
    · exact here
    · exact h.regions other old
  remote := h.remote

theorem Grown.confined (h : Grown t scope ds m) : m.Confined t scope ds := by
  induction h with
  | start => exact ⟨fun _ => nofun, fun _ => nofun⟩
  | ownGateway _ _ _ ih => exact ⟨ih.regions, ih.remote⟩
  | ownTable _ own _ id ih => exact ih.addRouteTable (mem_ownGateways.mp own).2.2 _ _ id
  | foreignTable _ described relevant needed id ih =>
    refine ⟨(ih.addRouteTable (region_of_concerns relevant) _ _ id).regions, fun key foreign => ?_⟩
    rcases (NameSet.contains_add ..).mp foreign with rfl | old
    · exact ⟨_, described, relevant, _, needed, rfl⟩
    · exact ih.remote key old
  | foreignGateway _ _ _ _ _ ih => exact ⟨ih.regions, ih.remote⟩
  | attachment _ _ _ _ _ ih => exact ⟨ih.regions, ih.remote⟩
  | prefixList _ _ _ _ ih => exact ⟨ih.regions, ih.remote⟩

/-! ## What the map of a unit holds -/

/-- An attachment concerns a unit: it is in the unit's region, and the gateway is in the unit's
account or the attachment is the unit's own. -/
theorem concerns_iff {a : Attachment} :
    concerns scope a = true ↔
      a.region = scope.region ∧ (a.gatewayAccount = scope.account ∨ a.owner = scope) := by
  simp [concerns, ownsGateway]

/-- The map of a unit has what is described for the unit, and no more. -/
structure Faithful (m : UnitMap) (t : Topology) (scope : Scope) (ds : List Attachment) : Prop where
  /-- The entries are the attachments that concern the unit, each under its key. -/
  entries : m.described.Perm ((ds.filter fun d => decide
    (d.region = scope.region ∧ (d.gatewayAccount = scope.account ∨ d.owner = scope))).map
      fun d => (d.key, d))
  /-- No two of these attachments have one key. -/
  distinct : (ds.filter fun d => decide
    (d.region = scope.region ∧ (d.gatewayAccount = scope.account ∨ d.owner = scope))).Pairwise
      fun d d' => d.key ≠ d'.key
  /-- A table that an attachment of the unit names has an id if its gateway defines it. -/
  tables : ∀ key x, m.attachments.get? key = some x → x.descriptor.owner = scope →
    ∀ table ∈ x.descriptor.associations ++ x.descriptor.propagations,
      ∀ g, t.gateway? x.descriptor.gateway x.descriptor.gatewayAccount = some g →
        g.hasRouteTable table = true →
          (m.routeTableId? x.descriptor.region x.descriptor.gateway table).isSome = true
  regions : ∀ region, m.routeTables.contains region → region = scope.region
  /-- What counts as foreign is named by an attachment of the unit on a gateway of another
  account. -/
  remote : ∀ key, m.remoteRouteTables.contains key → ∃ d ∈ ds, d.region = scope.region ∧
    d.owner = scope ∧ d.gatewayAccount ≠ scope.account ∧
    ∃ table ∈ d.associations ++ d.propagations,
      (∃ g, t.gateway? d.gateway d.gatewayAccount = some g ∧ g.hasRouteTable table = true) ∧
        key = Key.routeTable d.gateway table

/-- A map that has been built is faithful to the description. -/
theorem build_faithful (run : (build v t).run s = .ok m s') :
    ∃ ds, t.attachments v.accounts v.caller = .ok ds ∧ m.Faithful t v.caller ds := by
  obtain ⟨ds, described, held⟩ := build_holds run
  obtain ⟨ds', described', grown⟩ := build_grown run
  obtain rfl : ds = ds' := Except.ok.inj (described.symm.trans described')
  have confined := grown.confined
  have relevant : (ds.filter fun d => decide (d.region = v.caller.region ∧
      (d.gatewayAccount = v.caller.account ∨ d.owner = v.caller))) =
      ds.filter (concerns v.caller) :=
    List.filter_congr fun d _ => by rw [Bool.eq_iff_iff, decide_eq_true_iff, concerns_iff]
  refine ⟨ds, described, ?_, ?_, ?_, confined.regions, ?_⟩
  · rw [relevant]
    exact held.attachments
  · rw [relevant]
    exact List.pairwise_map.mp held.nodup_keys
  · intro key x found own table named g defined has
    obtain ⟨listed, concerned⟩ := List.mem_filter.mp (held.mem_of_found found)
    obtain ⟨g', found', region⟩ := gateway?_of_described described listed
    obtain rfl : g = g' := Option.some.inj (defined.symm.trans found')
    have here := region_of_concerns concerned
    have recorded := defined_recorded listed own here defined region has named
    refine held.hasRouteTable.mpr (List.mem_map.mpr ⟨_, recorded, ?_⟩)
    rw [here]
  · intro key foreign
    obtain ⟨d, hd, concerned, table, needed, rfl⟩ := confined.remote key foreign
    obtain ⟨own, other, named, defined⟩ := mem_foreignTables.mp needed
    exact ⟨d, hd, region_of_concerns concerned, own, other, table, named, defined, rfl⟩

/-- The owner of a VPC has its attachment in the map, and the tables of the foreign gateway that
the attachment names. -/
theorem build_faithful_sample :
    ∃ m s ds, (build (Topology.sample.vantage ⟨"Workload", "us-east-1"⟩
        (.fixed fun _ => .value "id")) .sample).run {} = .ok m s ∧
      m.attachments.keys = ["Core_Workload_App"] ∧
      m.remoteRouteTables.keys = ["Core_hub", "Core_spokes"] ∧
      Topology.sample.attachments Topology.sample.registry ⟨"Workload", "us-east-1"⟩ = .ok ds ∧
      m.Faithful .sample ⟨"Workload", "us-east-1"⟩ ds := by
  have mapped : (build (Topology.sample.vantage ⟨"Workload", "us-east-1"⟩
      (.fixed fun _ => .value "id")) .sample).comesTo (fun m => decide
        (m.attachments.keys = ["Core_Workload_App"] ∧
          m.remoteRouteTables.keys = ["Core_hub", "Core_spokes"])) = true := by
    decide +kernel
  obtain ⟨m, s, run, check⟩ := Lookup.exists_of_comesTo mapped
  obtain ⟨attachments, foreign⟩ := of_decide_eq_true check
  obtain ⟨ds, described, faithful⟩ := build_faithful run
  exact ⟨m, s, ds, run, attachments, foreign, described, faithful⟩

end UnitMap

end Interlink
