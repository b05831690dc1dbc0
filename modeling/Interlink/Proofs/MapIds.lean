import Interlink.Proofs.Keys
import Interlink.Proofs.Sources

/-!
# Whose ids a map holds

A unit reads the ids of everything it plans off its map, by key. They are the
right ones if every id in the map has been obtained for what its key names. The
lists of gateways and route tables that a unit records are known before it asks
anything (`recordedGateways`, `recordedTables`), and the map is filled so that
whatever stands under the key of one of them has been obtained for it
(`UnitMap.Sourced`, `UnitMap.build_fills`).

A later entry replaces an earlier one under the same key, and what is remembered
is found again under the same path. So this needs that keys and paths tell the
recorded gateways and tables apart (`UnitMap.Legible`), and they do where the
names that they are joined from hold no underscore and no slash.
-/

namespace Interlink

/-- The names that the keys and paths of a gateway and its route tables are joined
from. -/
def Gateway.names (g : Gateway) : List String :=
  g.name :: g.account :: g.routeTables.map (·.name)

namespace UnitMap

/-! ## Sourced maps -/

/-- Keys tell gateways and route tables apart, and so do paths. -/
structure Legible (gs : List GatewayRef) (ts : List (GatewayRef × String)) : Prop where
  gatewayKeys : Separates (fun g => Key.gateway g.name g.account) gs
  tableKeys : Separates (fun r => Key.routeTable r.1.name r.2) ts
  gatewayPaths : ∀ g ∈ gs, (Published.transitGateway g.name).Plain
  tablePaths : ∀ r ∈ ts, (Published.transitGatewayRouteTable r.1.name r.2).Plain

theorem Legible.mono {gs gs' : List GatewayRef} {ts ts' : List (GatewayRef × String)}
    (h : Legible gs ts) (gateways : gs' ⊆ gs) (tables : ts' ⊆ ts) : Legible gs' ts' where
  gatewayKeys g hg g' hg' := h.gatewayKeys g (gateways hg) g' (gateways hg')
  tableKeys r hr r' hr' := h.tableKeys r (tables hr) r' (tables hr')
  gatewayPaths g hg := h.gatewayPaths g (gateways hg)
  tablePaths r hr := h.tablePaths r (tables hr)

/-- The ids in the map of a unit have been obtained for what their keys name: for
some gateways and route tables in the unit's region, and for attachments, of
which the unit's own have been obtained themselves. -/
structure Sourced (v : Vantage) (gs : List GatewayRef) (ts : List (GatewayRef × String))
    (m : UnitMap) (s : Run) : Prop where
  gateways : ∀ g ∈ gs, ∀ id, m.gatewayId? g.name g.account = some id →
    v.Obtained s.exchanges (.transitGateway g.name) ⟨g.account, v.caller.region⟩ id
  tables : ∀ r ∈ ts, ∀ id, m.routeTableId? v.caller.region r.1.name r.2 = some id →
    v.Obtained s.exchanges (.transitGatewayRouteTable r.1.name r.2)
      ⟨r.1.account, v.caller.region⟩ id
  own : ∀ key a, m.attachments.get? key = some a → a.descriptor.owner = v.caller →
    v.Obtained s.exchanges (.attachment a.descriptor.kind a.descriptor.child a.descriptor.name)
      a.descriptor.owner a.id
  attachments : ∀ key a, m.attachments.get? key = some a →
    v.Obtained s.exchanges (.transitGateway a.descriptor.gateway) a.descriptor.gatewayScope
      a.gatewayId

variable {v : Vantage} {t : Topology} {m : UnitMap} {s : Run} {gs : List GatewayRef}
  {ts : List (GatewayRef × String)} {ds : List Attachment}

theorem stable_sourced (m : UnitMap) : Run.Stable (Sourced v gs ts m) := by
  intro s s' continues h
  have later := continues.exchanges.subset
  exact ⟨fun g hg id found => (h.gateways g hg id found).mono later,
    fun r hr id found => (h.tables r hr id found).mono later,
    fun key a found own => (h.own key a found own).mono later,
    fun key a found => (h.attachments key a found).mono later⟩

theorem sourced_start (s : Run) : Sourced v gs ts { scope := v.caller } s where
  gateways _ _ _ found := nomatch found
  tables _ _ _ found := nomatch found
  own _ _ found := nomatch found
  attachments _ _ found := nomatch found

/-- Where keys tell gateways apart, an id that is found is the one that was added or an earlier
one. -/
theorem gatewayId?_addGateway (separate : Separates (fun g => Key.gateway g.name g.account) gs)
    {g g' : GatewayRef} (hg : g ∈ gs) (hg' : g' ∈ gs) {id id' : String}
    (found : (m.addGateway g.name g.account id).gatewayId? g'.name g'.account = some id') :
    (g' = g ∧ id' = id) ∨ m.gatewayId? g'.name g'.account = some id' := by
  have lookup : (m.addGateway g.name g.account id).gatewayId? g'.name g'.account =
      if Key.gateway g'.name g'.account = Key.gateway g.name g.account then some id
      else m.gatewayId? g'.name g'.account := SortedMap.get?_insert ..
  rw [lookup] at found
  split at found
  · next same =>
    cases found
    exact .inl ⟨separate g' hg' g hg same, rfl⟩
  · exact .inr found

/-- Where keys tell route tables apart, an id that is found is the one that was added or an
earlier one. -/
theorem routeTableId?_addRouteTable
    (separate : Separates (fun r => Key.routeTable r.1.name r.2) ts)
    {r r' : GatewayRef × String} (hr : r ∈ ts) (hr' : r' ∈ ts) {region id id' : String}
    (found : (m.addRouteTable region r.1.name r.2 id).routeTableId? region r'.1.name r'.2 =
      some id') :
    (r' = r ∧ id' = id) ∨ m.routeTableId? region r'.1.name r'.2 = some id' := by
  rw [routeTableId?_eq, tableIds_addRouteTable, if_pos rfl, SortedMap.get?_insert] at found
  split at found
  · next same =>
    cases found
    exact .inl ⟨separate r' hr' r hr same, rfl⟩
  · rw [← routeTableId?_eq] at found
    exact .inr found

theorem Sourced.addGateway (h : Sourced v gs ts m s)
    (separate : Separates (fun g => Key.gateway g.name g.account) gs) {g : GatewayRef}
    (hg : g ∈ gs) {id : String}
    (obtained : v.Obtained s.exchanges (.transitGateway g.name) ⟨g.account, v.caller.region⟩ id) :
    Sourced v gs ts (m.addGateway g.name g.account id) s where
  gateways := by
    intro g' hg' id' found
    rcases gatewayId?_addGateway separate hg hg' found with ⟨rfl, rfl⟩ | old
    · exact obtained
    · exact h.gateways g' hg' id' old
  tables := h.tables
  own := h.own
  attachments := h.attachments

theorem Sourced.addRouteTable (h : Sourced v gs ts m s)
    (separate : Separates (fun r => Key.routeTable r.1.name r.2) ts) {r : GatewayRef × String}
    (hr : r ∈ ts) {id : String}
    (obtained : v.Obtained s.exchanges (.transitGatewayRouteTable r.1.name r.2)
      ⟨r.1.account, v.caller.region⟩ id) :
    Sourced v gs ts (m.addRouteTable v.caller.region r.1.name r.2 id) s where
  gateways := h.gateways
  tables := by
    intro r' hr' id' found
    rcases routeTableId?_addRouteTable separate hr hr' found with ⟨rfl, rfl⟩ | old
    · exact obtained
    · exact h.tables r' hr' id' old
  own := h.own
  attachments := h.attachments

theorem Sourced.addAttachment (h : Sourced v gs ts m s) {key : String} {a : ResolvedAttachment}
    (own : a.descriptor.owner = v.caller → v.Obtained s.exchanges
      (.attachment a.descriptor.kind a.descriptor.child a.descriptor.name)
      a.descriptor.owner a.id)
    (gateway : v.Obtained s.exchanges (.transitGateway a.descriptor.gateway)
      a.descriptor.gatewayScope a.gatewayId) :
    Sourced v gs ts (m.addAttachment key a) s where
  gateways := h.gateways
  tables := h.tables
  own := by
    intro key' a' found mine
    have found : (m.attachments.insert key a).get? key' = some a' := found
    rw [SortedMap.get?_insert] at found
    split at found
    · cases found
      exact own mine
    · exact h.own key' a' found mine
  attachments := by
    intro key' a' found
    have found : (m.attachments.insert key a).get? key' = some a' := found
    rw [SortedMap.get?_insert] at found
    split at found
    · cases found
      exact gateway
    · exact h.attachments key' a' found

theorem Sourced.addRemoteRouteTable {region gateway table id : String}
    (h : Sourced v gs ts (m.addRouteTable region gateway table id) s) :
    Sourced v gs ts (m.addRemoteRouteTable region gateway table id) s :=
  ⟨h.gateways, h.tables, h.own, h.attachments⟩

/-! ## The stages of a map -/

open Lookup

/-- A step that fills the map keeps its ids sourced. -/
def Fills (v : Vantage) (gs : List GatewayRef) (ts : List (GatewayRef × String)) (m : UnitMap)
    (x : Lookup UnitMap) : Prop :=
  Meets (fun s => v.Traced s ∧ Sourced v gs ts m s) x
    (fun m' s => v.Traced s ∧ Sourced v gs ts m' s) v.Traced

theorem fills_pure : Fills v gs ts m (pure m) := meets_pure fun _ hs => hs

theorem fills_foldlM {α : Type} {f : UnitMap → α → Lookup UnitMap} {as : List α}
    (step : ∀ a ∈ as, ∀ m, Fills v gs ts m (f m a)) (m : UnitMap) :
    Fills v gs ts m (as.foldlM f m) :=
  meets_foldlM_of_mem step m

theorem scope_of_own {g : Gateway} (own : g ∈ ownGateways t v.caller) :
    (⟨g.account, v.caller.region⟩ : Scope) = v.caller := by
  rw [(mem_ownGateways.mp own).2.1]

theorem gatewayScope_of_concerns {a : Attachment} (relevant : concerns v.caller a = true) :
    a.gatewayScope = ⟨a.gatewayAccount, v.caller.region⟩ := by
  rw [Attachment.gatewayScope, region_of_concerns relevant]

section Steps

variable (legible : Legible gs ts)
include legible

theorem resolveRouteTable_fills {g : Gateway} (own : g ∈ ownGateways t v.caller)
    {table : GatewayRouteTable} (recorded : (⟨g.name, g.account⟩, table.name) ∈ ts)
    (m : UnitMap) : Fills v gs ts m (resolveRouteTable v g m table) := by
  refine ((v.learn_own_traced (.transitGatewayRouteTable g.name table.name)).and_stable
    (stable_sourced m)).bind _ fun id => meets_pure fun s hs => ⟨hs.1.1, ?_⟩
  have obtained := hs.1.2
  rw [← scope_of_own own] at obtained
  rw [(mem_ownGateways.mp own).2.2]
  exact hs.2.addRouteTable legible.tableKeys recorded obtained

theorem resolveGateway_fills {g : Gateway} (own : g ∈ ownGateways t v.caller)
    (recorded : (⟨g.name, g.account⟩ : GatewayRef) ∈ gs)
    (tables : ∀ table ∈ g.routeTables, (⟨g.name, g.account⟩, table.name) ∈ ts) (m : UnitMap) :
    Fills v gs ts m (resolveGateway v m g) := by
  refine ((v.learn_own_traced (.transitGateway g.name)).and_stable (stable_sourced m)).bind _
    fun id => ?_
  have filled (m : UnitMap) : Fills v gs ts m (g.routeTables.foldlM (resolveRouteTable v g) m) :=
    fills_foldlM (fun table htable m =>
      resolveRouteTable_fills legible own (tables table htable) m) m
  refine (filled _).weaken (fun s hs => ⟨hs.1.1, ?_⟩) (fun _ _ hs => hs) fun _ hs => hs
  have obtained := hs.1.2
  rw [← scope_of_own own] at obtained
  exact hs.2.addGateway legible.gatewayKeys recorded obtained

theorem resolveRemoteRouteTable_fills {a : Attachment} (relevant : concerns v.caller a = true)
    {g : Gateway} (name : g.name = a.gateway) {table : String}
    (recorded : g.hasRouteTable table = true → (⟨a.gateway, a.gatewayAccount⟩, table) ∈ ts)
    (m : UnitMap) : Fills v gs ts m (resolveRemoteRouteTable v a g m table) := by
  unfold resolveRemoteRouteTable
  cases defined : g.hasRouteTable table with
  | false => exact fills_pure
  | true =>
    split
    · exact fills_pure
    · have there := recorded defined
      have learned : Meets v.Traced
          (v.learn (.transitGatewayRouteTable g.name table) a.gatewayScope)
          (fun id s => v.Traced s ∧ v.Obtained s.exchanges
            (.transitGatewayRouteTable g.name table) a.gatewayScope id) v.Traced := by
        rw [name]
        exact Vantage.learn_traced fun _ => ⟨legible.tablePaths _ there, rfl⟩
      refine (learned.and_stable (stable_sourced m)).bind _ fun id =>
        meets_pure fun s hs => ⟨hs.1.1, ?_⟩
      have obtained := hs.1.2
      rw [name, gatewayScope_of_concerns relevant] at obtained
      rw [name, region_of_concerns relevant]
      exact (hs.2.addRouteTable legible.tableKeys there obtained).addRemoteRouteTable

theorem resolveRemoteRouteTables_fills {a : Attachment} (relevant : concerns v.caller a = true)
    (foreign : (a.owner == v.caller && !ownsGateway v.caller a) = true)
    (recorded : ∀ table ∈ foreignTables t v.caller a,
      (⟨a.gateway, a.gatewayAccount⟩, table) ∈ ts) (m : UnitMap) :
    Fills v gs ts m (resolveRemoteRouteTables v t m a) := by
  unfold resolveRemoteRouteTables
  unfold foreignTables at recorded
  rw [if_pos foreign] at recorded
  cases found : t.gateway? a.gateway a.gatewayAccount with
  | none => exact fills_pure
  | some g =>
    rw [found] at recorded
    refine fills_foldlM (fun table htable m => ?_) m
    refine resolveRemoteRouteTable_fills legible relevant (Topology.gateway?_some found).2.1
      (fun defined => ?_) m
    exact recorded table (List.mem_filter.mpr ⟨htable, defined⟩)

/-- An attachment whose id is sourced is added to the map, after its gateway if that is not there
yet. -/
theorem link_fills {a : Attachment} (relevant : concerns v.caller a = true)
    (recorded : (⟨a.gateway, a.gatewayAccount⟩ : GatewayRef) ∈ gs) (id : String) :
    Meets (fun s => (v.Traced s ∧ (a.owner = v.caller →
        v.Obtained s.exchanges (.attachment a.kind a.child a.name) a.owner id)) ∧
        Sourced v gs ts m s)
      (match m.gatewayId? a.gateway a.gatewayAccount with
      | some gatewayId => pure (m.addAttachment a.key ⟨id, gatewayId, a⟩)
      | none => do
        let gatewayId ← v.learn (.transitGateway a.gateway) a.gatewayScope
        pure ((m.addGateway a.gateway a.gatewayAccount gatewayId).addAttachment a.key
          ⟨id, gatewayId, a⟩))
      (fun m' s => v.Traced s ∧ Sourced v gs ts m' s) v.Traced := by
  have scope := gatewayScope_of_concerns relevant
  cases known : m.gatewayId? a.gateway a.gatewayAccount with
  | some gatewayId =>
    refine meets_pure fun s hs => ⟨hs.1.1, hs.2.addAttachment hs.1.2 ?_⟩
    have obtained := hs.2.gateways _ recorded gatewayId known
    rw [← scope] at obtained
    exact obtained
  | none =>
    have learned : Meets v.Traced (v.learn (.transitGateway a.gateway) a.gatewayScope)
        (fun id s => v.Traced s ∧
          v.Obtained s.exchanges (.transitGateway a.gateway) a.gatewayScope id) v.Traced :=
      Vantage.learn_traced fun _ => ⟨legible.gatewayPaths _ recorded, rfl⟩
    have mine : Run.Stable fun s => a.owner = v.caller →
        v.Obtained s.exchanges (.attachment a.kind a.child a.name) a.owner id :=
      fun _ _ continues h mine => (h mine).mono continues.exchanges.subset
    refine ((learned.and_stable (Run.stable_and mine (stable_sourced m))).weaken
      (fun s hs => ⟨hs.1.1, hs.1.2, hs.2⟩) (fun _ _ hs => hs) fun _ hs => hs).bind _
        fun gatewayId => meets_pure fun s hs => ⟨hs.1.1, ?_⟩
    obtain ⟨⟨-, gateway⟩, attachment, sourced⟩ := hs
    have added : Sourced v gs ts (m.addGateway a.gateway a.gatewayAccount gatewayId) s := by
      rw [scope] at gateway
      exact sourced.addGateway legible.gatewayKeys recorded gateway
    exact added.addAttachment attachment gateway

theorem resolveAttachment_fills {a : Attachment} (relevant : concerns v.caller a = true)
    (recorded : (⟨a.gateway, a.gatewayAccount⟩ : GatewayRef) ∈ gs)
    (tables : ∀ table ∈ foreignTables t v.caller a,
      (⟨a.gateway, a.gatewayAccount⟩, table) ∈ ts) (m : UnitMap) :
    Fills v gs ts m (resolveAttachment v t m a) := by
  rw [resolveAttachment_eq]
  refine (meets_refuse fun _ hs => hs.1).bind _ fun _ => Meets.assuming fun _ => ?_
  have filled : Fills v gs ts m (if a.owner == v.caller && !ownsGateway v.caller a then
      resolveRemoteRouteTables v t m a else pure m : Lookup UnitMap) := by
    split
    · next foreign => exact resolveRemoteRouteTables_fills legible relevant foreign tables m
    · exact fills_pure
  refine filled.bind _ fun m₁ => ?_
  refine (meets_refuse fun _ hs => hs.1).bind _ fun _ => Meets.assuming fun _ => ?_
  exact ((v.resolveAttachment_traced a.kind a.child a.name
    ((m₁.gatewayId? a.gateway a.gatewayAccount).getD "") a.owner).and_stable
      (stable_sourced m₁)).bind _ fun id => link_fills legible relevant recorded id

end Steps

/-- The ids in the map of a unit are sourced, for all gateways and route tables
that the unit records. -/
theorem build_fills (described : t.attachments v.accounts v.caller = .ok ds)
    (legible : Legible (recordedGateways t v.caller ds) (recordedTables t v.caller ds)) :
    Meets v.Traced (build v t)
      (fun m s => v.Traced s ∧
        Sourced v (recordedGateways t v.caller ds) (recordedTables t v.caller ds) m s)
      v.Traced := by
  unfold build
  have own (m : UnitMap) : Fills v (recordedGateways t v.caller ds) (recordedTables t v.caller ds)
      m ((ownGateways t v.caller).foldlM (resolveGateway v) m) := by
    refine fills_foldlM (fun g hg m =>
      resolveGateway_fills legible hg ?_ (fun table htable => ?_) m) m
    · exact List.mem_append_left _ (List.mem_map.mpr ⟨g, hg, rfl⟩)
    · exact List.mem_append_left _
        (List.mem_flatMap.mpr ⟨g, hg, List.mem_map.mpr ⟨table, htable, rfl⟩⟩)
  have attached (m : UnitMap) : Fills v (recordedGateways t v.caller ds)
      (recordedTables t v.caller ds) m
      ((ds.filter (concerns v.caller)).foldlM (resolveAttachment v t) m) := by
    refine fills_foldlM (fun a ha m =>
      resolveAttachment_fills legible (List.mem_filter.mp ha).2 ?_ (fun table htable => ?_) m) m
    · exact List.mem_append_right _ (List.mem_map.mpr ⟨a, ha, rfl⟩)
    · exact List.mem_append_right _
        (List.mem_flatMap.mpr ⟨a, ha, List.mem_map.mpr ⟨table, htable, rfl⟩⟩)
  refine ((own _).weaken (fun s hs => ⟨hs, sourced_start s⟩) (fun _ _ hs => hs)
    fun _ hs => hs).bind _ fun m => ?_
  refine Meets.bind (fun ds' s => ds' = ds ∧ v.Traced s ∧
      Sourced v (recordedGateways t v.caller ds) (recordedTables t v.caller ds) m s)
    (meets_ofExcept (fun ds' h s hs => ⟨Except.ok.inj (h.symm.trans described), hs⟩)
      fun _ hs => hs.1) fun ds' => Meets.assuming fun same => ?_
  rw [same]
  refine (attached m).bind _ fun m => fills_foldlM (fun l _ m => ?_) m
  refine ((v.learn_own_traced (.prefixList l.name)).and_stable (stable_sourced m)).bind _
    fun id => meets_pure fun s hs => ⟨hs.1.1, ?_⟩
  exact ⟨hs.2.gateways, hs.2.tables, hs.2.own, hs.2.attachments⟩

/-- Keys and paths are legible where no name of a gateway, of its account or of
one of its route tables holds an underscore or a slash. -/
theorem legible_of_plain {scope : Scope} (faultless : t.Faultless)
    (described : t.attachments t.registry scope = .ok ds)
    (plain : ∀ g ∈ t.network.gateways, ∀ name ∈ g.names,
      '_' ∉ name.toList ∧ '/' ∉ name.toList) :
    Legible (recordedGateways t scope ds) (recordedTables t scope ds) := by
  have gateways : ∀ r ∈ recordedGateways t scope ds,
      ('_' ∉ r.name.toList ∧ '/' ∉ r.name.toList) ∧ '_' ∉ r.account.toList := by
    intro r hr
    obtain ⟨g, defined, rfl, -⟩ := defined_of_recorded faultless described hr
    have names := plain g defined
    exact ⟨names g.name (by simp [Gateway.names]),
      (names g.account (by simp [Gateway.names])).1⟩
  have tables : ∀ r ∈ recordedTables t scope ds, '_' ∉ r.2.toList ∧ '/' ∉ r.2.toList := by
    intro r hr
    obtain ⟨g, defined, -, has⟩ := defined_of_table hr
    obtain ⟨table, htable, same⟩ := List.any_eq_true.mp has
    rw [← beq_iff_eq.mp same]
    refine plain g defined table.name ?_
    exact List.mem_cons_of_mem _ (List.mem_cons_of_mem _ (List.mem_map_of_mem htable))
  refine ⟨?_, ?_, fun r hr => ?_, fun r hr => ?_⟩
  · exact separates_gateways faultless described fun r hr =>
      ⟨(gateways r hr).1.1, (gateways r hr).2⟩
  · exact separates_tables faultless described fun r hr =>
      ⟨(gateways r.1 (recorded_of_table hr)).1.1, (tables r hr).1⟩
  · exact Published.plain_transitGateway (gateways r hr).1.2
  · exact Published.plain_routeTable (gateways r.1 (recorded_of_table hr)).1.2 (tables r hr).2

end UnitMap

end Interlink
