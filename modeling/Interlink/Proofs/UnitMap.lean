import Interlink.Proofs.Lookup
import Interlink.Proofs.References
import Interlink.UnitMap

/-!
# What a unit has in its map

The stages that fill the map of a unit add to it and take nothing away, and what
they add does not depend on any answer: an answer decides which id stands under
a key, never which keys there are. So the keys of a map that has been built are
those of lists that can be read off the topology (`build_holds`): the gateways
and the route tables that the unit records, and the attachments that concern it.
-/

namespace Interlink

namespace UnitMap

variable {m m' : UnitMap} {scope : Scope} {gateways : List String}
  {tables : List (String × String)} {as : List Attachment}

/-! ## Contents -/

/-- The ids of the route tables of a region. -/
def tableIds (m : UnitMap) (region : String) : SortedMap String :=
  (m.routeTables.get? region).getD .empty

/-- The attachments with their keys, but without ids. -/
def described (m : UnitMap) : List (String × Attachment) :=
  m.attachments.entries.map fun e => (e.1, e.2.descriptor)

/-- The map of a scope holds gateways under some keys, route tables under some
keys in their regions, and some attachments, each under its own key. -/
structure Holds (m : UnitMap) (scope : Scope) (gateways : List String)
    (tables : List (String × String)) (as : List Attachment) : Prop where
  scope : m.scope = scope
  gateways : ∀ {key : String}, m.gateways.contains key ↔ key ∈ gateways
  tables : ∀ {region key : String}, (m.tableIds region).contains key ↔ (region, key) ∈ tables
  attachments : m.described.Perm (as.map fun a => (a.key, a))

theorem routeTableId?_eq (m : UnitMap) (region gateway table : String) :
    m.routeTableId? region gateway table =
      (m.tableIds region).get? (Key.routeTable gateway table) := by
  unfold routeTableId? tableIds
  cases m.routeTables.get? region <;> rfl

theorem tableIds_addRouteTable (m : UnitMap) (region gateway table id r : String) :
    (m.addRouteTable region gateway table id).tableIds r =
      if r = region then (m.tableIds region).insert (Key.routeTable gateway table) id
      else m.tableIds r := by
  unfold tableIds UnitMap.addRouteTable
  rw [SortedMap.get?_insert]
  split <;> rfl

theorem Holds.hasRouteTable (h : m.Holds scope gateways tables as) {region gateway table : String} :
    m.hasRouteTable region gateway table ↔ (region, Key.routeTable gateway table) ∈ tables := by
  unfold UnitMap.hasRouteTable
  rw [routeTableId?_eq]
  exact h.tables

theorem holds_start (scope : Scope) : Holds { scope } scope [] [] [] where
  scope := rfl
  gateways := by simp [SortedMap.contains]
  tables := by simp [tableIds, SortedMap.contains]
  attachments := .refl _

/-- The lists count as sets, but for the attachments. -/
theorem Holds.congr (h : m.Holds scope gateways tables as) {gateways' : List String}
    {tables' : List (String × String)} (hg : ∀ key, key ∈ gateways ↔ key ∈ gateways')
    (ht : ∀ entry, entry ∈ tables ↔ entry ∈ tables') : m.Holds scope gateways' tables' as :=
  ⟨h.scope, h.gateways.trans (hg _), h.tables.trans (ht _), h.attachments⟩

theorem Holds.addGateway (h : m.Holds scope gateways tables as) (gateway account id : String) :
    (m.addGateway gateway account id).Holds scope (gateways ++ [Key.gateway gateway account])
      tables as where
  scope := h.scope
  gateways := by
    intro key
    unfold UnitMap.addGateway
    rw [SortedMap.contains_insert, h.gateways, List.mem_append, List.mem_singleton, or_comm]
  tables := h.tables
  attachments := h.attachments

theorem Holds.addRouteTable (h : m.Holds scope gateways tables as)
    (region gateway table id : String) :
    (m.addRouteTable region gateway table id).Holds scope gateways
      (tables ++ [(region, Key.routeTable gateway table)]) as where
  scope := h.scope
  gateways := h.gateways
  tables := by
    intro r key
    rw [tableIds_addRouteTable, List.mem_append, List.mem_singleton, Prod.mk.injEq, ← h.tables]
    split
    · next same =>
      rw [SortedMap.contains_insert, same]
      simp only [true_and]
      exact or_comm
    · next other => simp [other]
  attachments := h.attachments

theorem Holds.addRemoteRouteTable (h : m.Holds scope gateways tables as)
    (region gateway table id : String) :
    (m.addRemoteRouteTable region gateway table id).Holds scope gateways
      (tables ++ [(region, Key.routeTable gateway table)]) as :=
  have h := h.addRouteTable region gateway table id
  ⟨h.scope, h.gateways, h.tables, h.attachments⟩

theorem Holds.addPrefixList (h : m.Holds scope gateways tables as) (name id : String) :
    (m.addPrefixList name id).Holds scope gateways tables as :=
  ⟨h.scope, h.gateways, h.tables, h.attachments⟩

theorem Holds.hasAttachment (h : m.Holds scope gateways tables as) {key : String} :
    m.attachments.contains key ↔ key ∈ as.map Attachment.key := by
  have keys : m.attachments.keys.Perm (as.map Attachment.key) := by
    have := h.attachments.map (·.1)
    simpa only [described, List.map_map, SortedMap.keys, Function.comp_def] using this
  unfold SortedMap.contains
  rw [← keys.mem_iff, Option.isSome_iff_exists]
  simp only [← SortedMap.mem_entries, SortedMap.keys, List.mem_map, Prod.exists,
    exists_and_right, exists_eq_right]

/-- Attachments in one map have different keys. -/
theorem Holds.nodup_keys (h : m.Holds scope gateways tables as) :
    (as.map Attachment.key).Nodup := by
  have keys := h.attachments.map (·.1)
  simp only [described, List.map_map, Function.comp_def] at keys
  exact keys.nodup_iff.mp m.attachments.nodup_keys

/-- An attachment in a map is one of those that the map holds, under its own key. -/
theorem Holds.found (h : m.Holds scope gateways tables as) {key : String}
    {x : ResolvedAttachment} (found : m.attachments.get? key = some x) :
    x.descriptor ∈ as ∧ x.descriptor.key = key := by
  have there : (key, x.descriptor) ∈ m.described :=
    List.mem_map.mpr ⟨(key, x), SortedMap.mem_entries.mpr found, rfl⟩
  obtain ⟨a, ha, same⟩ := List.mem_map.mp (h.attachments.mem_iff.mp there)
  obtain ⟨rfl, rfl⟩ := Prod.mk.inj same
  exact ⟨ha, rfl⟩

theorem Holds.mem_of_found (h : m.Holds scope gateways tables as) {key : String}
    {x : ResolvedAttachment} (found : m.attachments.get? key = some x) : x.descriptor ∈ as :=
  (h.found found).1

theorem Holds.key_of_found (h : m.Holds scope gateways tables as) {key : String}
    {x : ResolvedAttachment} (found : m.attachments.get? key = some x) :
    x.descriptor.key = key :=
  (h.found found).2

theorem Holds.addAttachment (h : m.Holds scope gateways tables as) {a : Attachment}
    (new : a.key ∉ as.map Attachment.key) (id gatewayId : String) :
    (m.addAttachment a.key ⟨id, gatewayId, a⟩).Holds scope gateways tables (as ++ [a]) where
  scope := h.scope
  gateways := h.gateways
  tables := h.tables
  attachments := by
    have none : m.attachments.entries.lookup a.key = none :=
      Option.not_isSome_iff_eq_none.mp fun there => new (h.hasAttachment.mp there)
    have added : (m.addAttachment a.key ⟨id, gatewayId, a⟩).described.Perm
        ((a.key, a) :: m.described) :=
      (SortedMap.perm_insertEntry none).map fun e : String × ResolvedAttachment =>
        (e.1, e.2.descriptor)
    rw [List.map_append]
    exact (added.trans (h.attachments.cons _)).trans (List.perm_append_singleton ..).symm

/-! ## Stages -/

variable {v : Vantage} {t : Topology} {s s' : Run}

theorem resolveRouteTable_holds {g : Gateway} {table : GatewayRouteTable}
    (h : m.Holds scope gateways tables as)
    (run : (resolveRouteTable v g m table).run s = .ok m' s') :
    m'.Holds scope gateways (tables ++ [(g.region, Key.routeTable g.name table.name)]) as := by
  obtain ⟨id, s₁, -, last⟩ := run_bind_ok.mp run
  obtain ⟨rfl, -⟩ := run_pure_ok.mp last
  exact h.addRouteTable ..

theorem resolveGateway_holds {g : Gateway} (h : m.Holds scope gateways tables as)
    (run : (resolveGateway v m g).run s = .ok m' s') :
    m'.Holds scope (gateways ++ [Key.gateway g.name g.account])
      (tables ++ g.routeTables.map fun table => (g.region, Key.routeTable g.name table.name))
      as := by
  obtain ⟨id, s₁, -, filled⟩ := run_bind_ok.mp run
  have start := h.addGateway g.name g.account id
  refine run_foldlM_ok (fun done (m : UnitMap) => m.Holds scope _
    (tables ++ done.map fun table => (g.region, Key.routeTable g.name table.name)) as)
    ?_ (by simpa using start) filled
  intro before table c c' s s' _ hc run
  rw [List.map_append, ← List.append_assoc]
  exact resolveRouteTable_holds hc run

/-- A table of a foreign gateway is recorded if the gateway defines it; it is
asked for only if it is not recorded yet. -/
theorem resolveRemoteRouteTable_holds {a : Attachment} {g : Gateway} {table : String}
    (h : m.Holds scope gateways tables as)
    (run : (resolveRemoteRouteTable v a g m table).run s = .ok m' s') :
    m'.Holds scope gateways
      (tables ++ ([table].filter g.hasRouteTable).map fun table =>
        (a.region, Key.routeTable g.name table)) as := by
  unfold resolveRemoteRouteTable at run
  cases defined : g.hasRouteTable table with
  | false =>
    simp only [defined, Bool.not_false, Bool.true_or, if_true] at run
    obtain ⟨rfl, -⟩ := run_pure_ok.mp run
    simpa [defined] using h
  | true =>
    simp only [List.filter_cons, defined, if_true, List.filter_nil, List.map_singleton]
    cases known : m.hasRouteTable a.region g.name table with
    | true =>
      simp only [known, Bool.or_true, if_true] at run
      obtain ⟨rfl, -⟩ := run_pure_ok.mp run
      have there := h.hasRouteTable.mp known
      refine h.congr (fun _ => Iff.rfl) fun entry => ?_
      rw [List.mem_append, List.mem_singleton]
      exact ⟨.inl, fun | .inl old => old | .inr same => same ▸ there⟩
    | false =>
      simp only [defined, known, Bool.not_true, Bool.or_self, Bool.false_eq_true,
        if_false] at run
      obtain ⟨id, s₁, -, last⟩ := run_bind_ok.mp run
      obtain ⟨rfl, -⟩ := run_pure_ok.mp last
      exact h.addRemoteRouteTable ..

/-- The tables that an attachment needs of a gateway of another account: those
that the attachment names and the gateway defines. -/
def foreignTables (t : Topology) (scope : Scope) (a : Attachment) : List String :=
  if a.owner == scope && !ownsGateway scope a then
    match t.gateway? a.gateway a.gatewayAccount with
    | none => []
    | some g => (a.associations ++ a.propagations).filter g.hasRouteTable
  else []

/-- A foreign route table that an attachment needs is defined, and the attachment names it. -/
theorem mem_foreignTables {a : Attachment} {table : String} :
    table ∈ foreignTables t scope a ↔
      a.owner = scope ∧ a.gatewayAccount ≠ scope.account ∧
        table ∈ a.associations ++ a.propagations ∧
        ∃ g, t.gateway? a.gateway a.gatewayAccount = some g ∧ g.hasRouteTable table = true := by
  unfold foreignTables
  cases foreign : a.owner == scope && !ownsGateway scope a with
  | false =>
    simp only [Bool.false_eq_true, if_false, List.not_mem_nil, false_iff]
    rintro ⟨own, other, -⟩
    simp [own, ownsGateway, other] at foreign
  | true =>
    obtain ⟨own, other⟩ : a.owner = scope ∧ a.gatewayAccount ≠ scope.account := by
      simpa [ownsGateway] using foreign
    cases found : t.gateway? a.gateway a.gatewayAccount with
    | none => simp
    | some g => simp [own, other, -List.mem_append, -List.filter_append]

theorem resolveRemoteRouteTables_holds {a : Attachment} (h : m.Holds scope gateways tables as)
    (foreign : (a.owner == scope && !ownsGateway scope a) = true)
    (run : (resolveRemoteRouteTables v t m a).run s = .ok m' s') :
    m'.Holds scope gateways
      (tables ++ (foreignTables t scope a).map fun table =>
        (a.region, Key.routeTable a.gateway table)) as := by
  unfold resolveRemoteRouteTables at run
  unfold foreignTables
  rw [if_pos foreign]
  cases found : t.gateway? a.gateway a.gatewayAccount with
  | none =>
    rw [found] at run
    obtain ⟨rfl, -⟩ := run_pure_ok.mp run
    simpa using h
  | some g =>
    rw [found] at run
    have name : g.name = a.gateway := (Topology.gateway?_some found).2.1
    refine run_foldlM_ok (fun done (m : UnitMap) => m.Holds scope gateways
      (tables ++ (done.filter g.hasRouteTable).map fun table =>
        (a.region, Key.routeTable a.gateway table)) as) ?_ (by simpa using h) run
    intro before table c c' s s' _ hc run
    rw [List.filter_append, List.map_append, ← List.append_assoc, ← name]
    rw [← name] at hc
    exact resolveRemoteRouteTable_holds hc run

/-- The steps for an attachment: two of them refuse it, and in between and
afterwards it is resolved. -/
theorem resolveAttachment_eq (v : Vantage) (t : Topology) (m : UnitMap) (a : Attachment) :
    resolveAttachment v t m a = (do
      Lookup.refuse (m.attachments.contains a.key)
        (.misconfigured (.sharedAttachmentKey a.key) v.caller)
      let m ← (if a.owner == v.caller && !ownsGateway v.caller a then
          resolveRemoteRouteTables v t m a else pure m : Lookup UnitMap)
      let known := m.gatewayId? a.gateway a.gatewayAccount
      Lookup.refuse (known.isNone && !(a.owner == v.caller))
        (.notFound (Key.gateway a.gateway a.gatewayAccount) v.caller)
      let id ← v.resolveAttachment a.kind a.child a.name (known.getD "") a.owner
      match known with
      | some gatewayId => pure (m.addAttachment a.key ⟨id, gatewayId, a⟩)
      | none =>
        let gatewayId ← v.learn (.transitGateway a.gateway) a.gatewayScope
        pure ((m.addGateway a.gateway a.gatewayAccount gatewayId).addAttachment a.key
          ⟨id, gatewayId, a⟩)) := by
  have steps {α : Type} (refused : Bool) (e : PlanError) (next : Unit → Lookup α) :
      (Lookup.refuse refused e >>= next) = if refused then throw e >>= next else next () := by
    cases refused <;> rfl
  unfold resolveAttachment
  simp only [steps]
  cases a.owner == v.caller && !ownsGateway v.caller a <;> rfl

/-- The steps for an attachment of another owner whose gateway is known. -/
theorem resolveAttachment_foreign {a : Attachment} {gatewayId : String}
    (free : m.attachments.contains a.key = false) (foreign : a.owner ≠ v.caller)
    (known : m.gatewayId? a.gateway a.gatewayAccount = some gatewayId) :
    resolveAttachment v t m a = (do
      let id ← v.resolveAttachment a.kind a.child a.name gatewayId a.owner
      pure (m.addAttachment a.key ⟨id, gatewayId, a⟩)) := by
  rw [resolveAttachment_eq, beq_eq_false_iff_ne.mpr foreign, free]
  simp only [Bool.false_and, Bool.false_eq_true, if_false, pure_bind, known, Option.isNone_some,
    Option.getD_some]
  rfl

/-- The steps for an attachment of the unit: its gateway may be known or not. -/
theorem resolveAttachment_own {a : Attachment} (free : m.attachments.contains a.key = false)
    (own : a.owner = v.caller) :
    resolveAttachment v t m a = (do
      let m ← (if ownsGateway v.caller a then pure m
        else resolveRemoteRouteTables v t m a : Lookup UnitMap)
      let id ← v.resolveAttachment a.kind a.child a.name
        ((m.gatewayId? a.gateway a.gatewayAccount).getD "") v.caller
      match m.gatewayId? a.gateway a.gatewayAccount with
      | some gatewayId => pure (m.addAttachment a.key ⟨id, gatewayId, a⟩)
      | none =>
        let gatewayId ← v.learn (.transitGateway a.gateway) a.gatewayScope
        pure ((m.addGateway a.gateway a.gatewayAccount gatewayId).addAttachment a.key
          ⟨id, gatewayId, a⟩)) := by
  rw [resolveAttachment_eq, own, free, beq_self_eq_true, Bool.not_true]
  simp only [Bool.and_false, Bool.true_and]
  cases ownsGateway v.caller a <;> rfl

/-- An attachment that is resolved is recorded with its gateway and the foreign
tables that it needs. It is refused if its key is taken. -/
theorem resolveAttachment_holds {a : Attachment} (h : m.Holds v.caller gateways tables as)
    (run : (resolveAttachment v t m a).run s = .ok m' s') :
    m'.Holds v.caller (gateways ++ [Key.gateway a.gateway a.gatewayAccount])
      (tables ++ (foreignTables t v.caller a).map fun table =>
        (a.region, Key.routeTable a.gateway table)) (as ++ [a]) := by
  rw [resolveAttachment_eq] at run
  obtain ⟨_, s₁, free, run⟩ := run_bind_ok.mp run
  obtain ⟨m₁, s₂, tablesRun, run⟩ := run_bind_ok.mp run
  obtain ⟨_, s₃, -, run⟩ := run_bind_ok.mp run
  obtain ⟨id, s₄, -, run⟩ := run_bind_ok.mp run
  have h₁ : m₁.Holds v.caller gateways
      (tables ++ (foreignTables t v.caller a).map fun table =>
        (a.region, Key.routeTable a.gateway table)) as := by
    split at tablesRun
    · next foreign => exact resolveRemoteRouteTables_holds h foreign tablesRun
    · next foreign =>
      obtain ⟨rfl, -⟩ := run_pure_ok.mp tablesRun
      simpa [foreignTables, foreign] using h
  have new : a.key ∉ as.map Attachment.key := by
    rw [← h.hasAttachment, (Lookup.run_refuse_ok.mp free).1]
    exact Bool.false_ne_true
  cases known : m₁.gatewayId? a.gateway a.gatewayAccount with
  | some gatewayId =>
    rw [known] at run
    obtain ⟨rfl, -⟩ := run_pure_ok.mp run
    have there : Key.gateway a.gateway a.gatewayAccount ∈ gateways :=
      h₁.gateways.mp (Option.isSome_iff_exists.mpr ⟨_, known⟩)
    refine (h₁.addAttachment new id gatewayId).congr (fun key => ?_) fun _ => Iff.rfl
    rw [List.mem_append, List.mem_singleton]
    exact ⟨.inl, fun | .inl old => old | .inr same => same ▸ there⟩
  | none =>
    rw [known] at run
    obtain ⟨gatewayId, s₅, -, last⟩ := run_bind_ok.mp run
    obtain ⟨rfl, -⟩ := run_pure_ok.mp last
    exact (h₁.addGateway a.gateway a.gatewayAccount gatewayId).addAttachment new id gatewayId

theorem resolvePrefixList_holds {l : PrefixList} (h : m.Holds scope gateways tables as)
    (run : (resolvePrefixList v m l).run s = .ok m' s') : m'.Holds scope gateways tables as := by
  obtain ⟨id, s₁, -, last⟩ := run_bind_ok.mp run
  obtain ⟨rfl, -⟩ := run_pure_ok.mp last
  exact h.addPrefixList ..

/-! ## The whole -/

/-- The gateways that a unit records: its own, and those of the attachments that
concern it. -/
def recordedGateways (t : Topology) (scope : Scope) (ds : List Attachment) : List GatewayRef :=
  (ownGateways t scope).map (fun g => ⟨g.name, g.account⟩) ++
    (ds.filter (concerns scope)).map fun a => ⟨a.gateway, a.gatewayAccount⟩

/-- The route tables that a unit records, all of them in its region: those of
its own gateways, and those that its attachments need of other gateways. -/
def recordedTables (t : Topology) (scope : Scope) (ds : List Attachment) :
    List (GatewayRef × String) :=
  ((ownGateways t scope).flatMap fun g =>
      g.routeTables.map fun table => (⟨g.name, g.account⟩, table.name)) ++
    (ds.filter (concerns scope)).flatMap fun a =>
      (foreignTables t scope a).map fun table => (⟨a.gateway, a.gatewayAccount⟩, table)

theorem mem_ownGateways {g : Gateway} :
    g ∈ ownGateways t scope ↔
      g ∈ t.network.gateways ∧ g.account = scope.account ∧ g.region = scope.region := by
  simp [ownGateways]

theorem region_of_concerns {a : Attachment} (h : concerns scope a = true) :
    a.region = scope.region := by
  simp only [concerns, Bool.and_eq_true, beq_iff_eq] at h
  exact h.1

/-- The own gateways are recorded before any attachment is, with their tables. -/
theorem ownGateways_holds
    (run : ((ownGateways t v.caller).foldlM (resolveGateway v) { scope := v.caller }).run s =
      .ok m s') :
    m.Holds v.caller
      ((ownGateways t v.caller).map fun g => Key.gateway g.name g.account)
      ((ownGateways t v.caller).flatMap fun g =>
        g.routeTables.map fun table => (v.caller.region, Key.routeTable g.name table.name)) [] := by
  refine run_foldlM_ok (fun done (m : UnitMap) => m.Holds v.caller
    (done.map fun g => Key.gateway g.name g.account)
    (done.flatMap fun g =>
      g.routeTables.map fun table => (v.caller.region, Key.routeTable g.name table.name)) [])
    ?_ (holds_start _) run
  intro before g c c' s s' hg hc run
  have held := resolveGateway_holds hc run
  rw [(mem_ownGateways.mp hg).2.2] at held
  simpa using held

/-- A map that has been built holds what the unit records, and no more. -/
theorem build_holds (run : (build v t).run s = .ok m s') :
    ∃ ds, t.attachments v.accounts v.caller = .ok ds ∧
      m.Holds v.caller
        ((recordedGateways t v.caller ds).map fun g => Key.gateway g.name g.account)
        ((recordedTables t v.caller ds).map fun r =>
          (v.caller.region, Key.routeTable r.1.name r.2))
        (ds.filter (concerns v.caller)) := by
  obtain ⟨m₁, s₁, own, run⟩ := run_bind_ok.mp run
  obtain ⟨ds, s₂, described, run⟩ := run_bind_ok.mp run
  obtain ⟨m₂, s₃, attached, listed⟩ := run_bind_ok.mp run
  have described := (Lookup.run_ofExcept_ok.mp described).1
  have h₁ := ownGateways_holds own
  have h₂ : m₂.Holds v.caller
      ((recordedGateways t v.caller ds).map fun g => Key.gateway g.name g.account)
      ((recordedTables t v.caller ds).map fun r =>
        (v.caller.region, Key.routeTable r.1.name r.2))
      (ds.filter (concerns v.caller)) := by
    have last := run_foldlM_ok (fun done (m : UnitMap) => m.Holds v.caller
      (((ownGateways t v.caller).map fun g => Key.gateway g.name g.account) ++
        done.map fun a => Key.gateway a.gateway a.gatewayAccount)
      (((ownGateways t v.caller).flatMap fun g =>
        g.routeTables.map fun table => (v.caller.region, Key.routeTable g.name table.name)) ++
        done.flatMap fun a => (foreignTables t v.caller a).map fun table =>
          (v.caller.region, Key.routeTable a.gateway table)) done)
      ?_ (by simpa using h₁) attached
    · simpa [recordedGateways, recordedTables, List.map_flatMap, Function.comp_def] using last
    · intro before a c c' s s' ha hc run
      have held := resolveAttachment_holds hc run
      rw [region_of_concerns (List.mem_filter.mp ha).2] at held
      simpa using held
  refine ⟨ds, described, ?_⟩
  refine run_foldlM_ok (fun _ (m : UnitMap) => m.Holds v.caller _ _ _) ?_ h₂ listed
  intro _ l c c' s s' _ hc run
  exact resolvePrefixList_holds hc run

/-- A unit records every route table that one of its own attachments names, if the gateway
defines it. -/
theorem defined_recorded {ds : List Attachment} {d : Attachment} (hd : d ∈ ds)
    (own : d.owner = scope) (here : d.region = scope.region) {g : Gateway}
    (found : t.gateway? d.gateway d.gatewayAccount = some g) (region : g.region = d.region)
    {table : String} (has : g.hasRouteTable table = true)
    (named : table ∈ d.associations ++ d.propagations) :
    (⟨d.gateway, d.gatewayAccount⟩, table) ∈ recordedTables t scope ds := by
  obtain ⟨defined, name, account⟩ := Topology.gateway?_some found
  unfold recordedTables
  rw [List.mem_append]
  by_cases ours : d.gatewayAccount = scope.account
  · left
    obtain ⟨rt, hrt, same⟩ := List.any_eq_true.mp has
    refine List.mem_flatMap.mpr ⟨g, mem_ownGateways.mpr
      ⟨defined, account.trans ours, region.trans here⟩, List.mem_map.mpr ⟨rt, hrt, ?_⟩⟩
    rw [name, account, beq_iff_eq.mp same]
  · right
    have relevant : concerns scope d = true := by simp [concerns, here, own]
    refine List.mem_flatMap.mpr ⟨d, List.mem_filter.mpr ⟨hd, relevant⟩,
      List.mem_map.mpr ⟨table, ?_, rfl⟩⟩
    have foreign : (d.owner == scope && !ownsGateway scope d) = true := by
      simp [own, ownsGateway, ours]
    unfold foreignTables
    rw [if_pos foreign, found]
    exact List.mem_filter.mpr ⟨named, has⟩

/-- A unit records every route table that one of its own attachments names. -/
theorem table_recorded {ds : List Attachment} {d : Attachment} (hd : d ∈ ds)
    (own : d.owner = scope)
    (grounded : t.Grounded d) (linked : t.Linked d) {table : String}
    (named : table ∈ d.associations ++ d.propagations) :
    (⟨d.gateway, d.gatewayAccount⟩, table) ∈ recordedTables t scope ds := by
  obtain ⟨g, found, tables⟩ := linked.gateway
  obtain ⟨g', found', region⟩ := grounded.gateway
  cases found.symm.trans found'
  have here : d.region = scope.region := by rw [← grounded.region, own]
  exact defined_recorded hd own here found region (tables table named) named

/-- What a map that has been built has for an attachment of the unit: the ids of
all route tables that the attachment names. -/
theorem routeTable_recorded {gateways : List String} {ds : List Attachment}
    (held : m.Holds scope gateways
      ((recordedTables t scope ds).map fun r => (scope.region, Key.routeTable r.1.name r.2))
      (ds.filter (concerns scope)))
    {d : Attachment} (hd : d ∈ ds) (own : d.owner = scope) (grounded : t.Grounded d)
    (linked : t.Linked d) {table : String} (named : table ∈ d.associations ++ d.propagations) :
    (m.routeTableId? d.region d.gateway table).isSome = true := by
  have here : d.region = scope.region := by rw [← grounded.region, own]
  have recorded := table_recorded hd own grounded linked named
  refine held.hasRouteTable.mpr (List.mem_map.mpr ⟨_, recorded, ?_⟩)
  rw [here]

end UnitMap

end Interlink
