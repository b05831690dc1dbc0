import Interlink.Proofs.AttachmentIds
import Interlink.Proofs.FixedAnswers
import Interlink.Proofs.MapIds

/-!
# Maps from fixed answers

If answers are fixed, the map of a unit is decided by what the unit needs and by what it
is told. What it needs can be read off the topology (`Topology.needs`), and the map
renders what it is told of that: every need under its key, with the value that the unit
is told, and nothing else (`UnitMap.Renders`). There is at most one such map
(`Renders.unique`), and a unit builds it if it exists and fails if it does not
(`UnitMap.built_iff`). When anything is asked for, and whether it is asked for at all or
remembered, does not matter.

Half of this is known for all backends: which keys a map has (`UnitMap.Holds`). What is
added here is carried through the stages as `UnitMap.Reflects`, and each stage that fails
shows a need of which the unit is told nothing.
-/

namespace Interlink

/-! ## Needs -/

/-- What a unit needs for its map. -/
structure Needs where
  gateways : List GatewayRef
  tables : List (GatewayRef × String)
  attachments : List Attachment
  prefixLists : List String

/-- The same needs in another order. -/
structure Needs.Perm (n n' : Needs) : Prop where
  gateways : n.gateways.Perm n'.gateways
  tables : n.tables.Perm n'.tables
  attachments : n.attachments.Perm n'.attachments
  prefixLists : n.prefixLists.Perm n'.prefixLists

theorem Needs.Perm.symm {n n' : Needs} (h : n.Perm n') : n'.Perm n :=
  ⟨h.gateways.symm, h.tables.symm, h.attachments.symm, h.prefixLists.symm⟩

/-- What the unit of a scope needs, given the attachments that are described. -/
def Topology.needs (t : Topology) (scope : Scope) (ds : List Attachment) : Needs where
  gateways := UnitMap.recordedGateways t scope ds
  tables := UnitMap.recordedTables t scope ds
  attachments := ds.filter (UnitMap.concerns scope)
  prefixLists :=
    (t.network.prefixLists.filter (·.isDeployedTo scope.account scope.region)).map (·.name)

namespace Knowledge

variable {k : Knowledge} {scope : Scope} {a : Attachment} {x : ResolvedAttachment}

/-- The id of a gateway in the region of a unit. -/
def gatewayId (k : Knowledge) (scope : Scope) (g : GatewayRef) : Option String :=
  k.value (.transitGateway g.name) ⟨g.account, scope.region⟩

/-- The id of a route table of a gateway in the region of a unit. -/
def routeTableId (k : Knowledge) (scope : Scope) (r : GatewayRef × String) : Option String :=
  k.value (.transitGatewayRouteTable r.1.name r.2) ⟨r.1.account, scope.region⟩

/-- The id of a prefix list of a unit. -/
def prefixListId (k : Knowledge) (scope : Scope) (name : String) : Option String :=
  k.value (.prefixList name) scope

/-- The id of an attachment: the unit's own, or one on a gateway whose id is known. -/
def attachmentId (k : Knowledge) (scope : Scope) (a : Attachment) (gatewayId : String) :
    Option String :=
  if a.owner = scope then k.value a.published a.owner else k.attachment a.owner gatewayId a.name

/-- An attachment with its id and that of its gateway. -/
def resolved (k : Knowledge) (scope : Scope) (a : Attachment) : Option ResolvedAttachment :=
  (k.gatewayId scope ⟨a.gateway, a.gatewayAccount⟩).bind fun gatewayId =>
    (k.attachmentId scope a gatewayId).map fun id => ⟨id, gatewayId, a⟩

theorem resolved_eq_some :
    k.resolved scope a = some x ↔ x.descriptor = a ∧
      k.gatewayId scope ⟨a.gateway, a.gatewayAccount⟩ = some x.gatewayId ∧
      k.attachmentId scope a x.gatewayId = some x.id := by
  unfold resolved
  rw [Option.bind_eq_some_iff]
  constructor
  · rintro ⟨gatewayId, gateway, found⟩
    obtain ⟨id, attachment, rfl⟩ := Option.map_eq_some_iff.mp found
    exact ⟨rfl, gateway, attachment⟩
  · rintro ⟨rfl, gateway, attachment⟩
    exact ⟨x.gatewayId, gateway, by rw [attachment]; rfl⟩

/-- All that is needed is known. -/
structure Covers (k : Knowledge) (scope : Scope) (n : Needs) : Prop where
  gateways : ∀ g ∈ n.gateways, k.gatewayId scope g ≠ none
  tables : ∀ r ∈ n.tables, k.routeTableId scope r ≠ none
  attachments : ∀ a ∈ n.attachments, k.resolved scope a ≠ none
  prefixLists : ∀ name ∈ n.prefixLists, k.prefixListId scope name ≠ none

/-- The id of an attachment that is needed is known, and that of its gateway. -/
theorem Covers.attachment {n : Needs} (h : k.Covers scope n) (needed : a ∈ n.attachments) :
    ∃ gatewayId id, k.gatewayId scope ⟨a.gateway, a.gatewayAccount⟩ = some gatewayId ∧
      k.attachmentId scope a gatewayId = some id := by
  obtain ⟨x, resolved⟩ := Option.ne_none_iff_exists'.mp (h.attachments a needed)
  obtain ⟨-, gateway, attachment⟩ := resolved_eq_some.mp resolved
  exact ⟨x.gatewayId, x.id, gateway, attachment⟩

end Knowledge

namespace UnitMap

variable {k : Knowledge} {scope : Scope} {n : Needs} {m m' : UnitMap} {ls : List String}

/-! ## What a map says -/

/-- A map says nothing but what is known, as far as needs go, and some prefix lists are in it. Its
route tables are in the region of the unit, and those of other accounts count as remote. -/
structure Reflects (k : Knowledge) (scope : Scope) (n : Needs) (ls : List String) (m : UnitMap) :
    Prop where
  gateways : ∀ g ∈ n.gateways, ∀ id, m.gatewayId? g.name g.account = some id →
    k.gatewayId scope g = some id
  tables : ∀ r ∈ n.tables, ∀ id, m.routeTableId? scope.region r.1.name r.2 = some id →
    k.routeTableId scope r = some id
  attachments : ∀ key x, m.attachments.get? key = some x →
    k.resolved scope x.descriptor = some x
  prefixLists : ∀ name id, m.prefixLists.get? name = some id → k.prefixListId scope name = some id
  listed : ∀ name, m.prefixLists.contains name ↔ name ∈ ls
  regions : ∀ region ids, m.routeTables.get? region = some ids →
    region = scope.region ∧ ids ≠ .empty
  remote : ∀ key, m.remoteRouteTables.contains key ↔
    (∃ r ∈ n.tables, Key.routeTable r.1.name r.2 = key ∧ r.1.account ≠ scope.account) ∧
      (m.tableIds scope.region).contains key

theorem reflects_start (k : Knowledge) (scope : Scope) (n : Needs) :
    Reflects k scope n [] { scope } where
  gateways _ _ _ found := nomatch found
  tables _ _ _ found := nomatch found
  attachments _ _ found := nomatch found
  prefixLists _ _ found := nomatch found
  listed := by simp [SortedMap.contains]
  regions _ _ found := nomatch found
  remote := by simp [tableIds, SortedMap.contains]

theorem Reflects.addGateway (h : m.Reflects k scope n ls)
    (separate : Separates (fun g => Key.gateway g.name g.account) n.gateways) {g : GatewayRef}
    (needed : g ∈ n.gateways) {id : String} (told : k.gatewayId scope g = some id) :
    (m.addGateway g.name g.account id).Reflects k scope n ls :=
  { h with
    gateways := by
      intro g' needed' id' found
      rcases gatewayId?_addGateway separate needed needed' found with ⟨rfl, rfl⟩ | old
      · exact told
      · exact h.gateways g' needed' id' old }

theorem Reflects.addAttachment (h : m.Reflects k scope n ls) {key : String}
    {x : ResolvedAttachment} (told : k.resolved scope x.descriptor = some x) :
    (m.addAttachment key x).Reflects k scope n ls :=
  { h with
    attachments := by
      intro key' x' found
      have found : (m.attachments.insert key x).get? key' = some x' := found
      rw [SortedMap.get?_insert] at found
      split at found
      · cases found
        exact told
      · exact h.attachments key' x' found }

theorem Reflects.addPrefixList (h : m.Reflects k scope n ls) {name id : String}
    (told : k.prefixListId scope name = some id) :
    (m.addPrefixList name id).Reflects k scope n (ls ++ [name]) :=
  { h with
    prefixLists := by
      intro name' id' found
      have found : (m.prefixLists.insert name id).get? name' = some id' := found
      rw [SortedMap.get?_insert] at found
      split at found
      · next same =>
        cases found
        rw [same, told]
      · exact h.prefixLists name' id' found
    listed := by
      intro name'
      show (m.prefixLists.insert name id).contains name' ↔ _
      rw [SortedMap.contains_insert, h.listed, List.mem_append, List.mem_singleton, or_comm] }

section AddRouteTable

variable (h : m.Reflects k scope n ls)
  (separate : Separates (fun r => Key.routeTable r.1.name r.2) n.tables)
  {r : GatewayRef × String} (needed : r ∈ n.tables) {id : String}
  (told : k.routeTableId scope r = some id)
include h

/-- A region to which a route table is added has one. -/
theorem Reflects.regions_addRouteTable (gateway table id region : String)
    (ids : SortedMap String)
    (found : (m.addRouteTable scope.region gateway table id).routeTables.get? region = some ids) :
    region = scope.region ∧ ids ≠ .empty := by
  have found : (m.routeTables.insert scope.region _).get? region = some ids := found
  rw [SortedMap.get?_insert] at found
  split at found
  · next same =>
    cases found
    refine ⟨same, fun none => ?_⟩
    have there := congrArg (SortedMap.get? · (Key.routeTable gateway table)) none
    simp at there
  · exact h.regions region ids found

include separate needed told

/-- A route table of the unit's own account is not remote. -/
theorem Reflects.addRouteTable (own : r.1.account = scope.account) :
    (m.addRouteTable scope.region r.1.name r.2 id).Reflects k scope n ls :=
  { h with
    tables := by
      intro r' needed' id' found
      rcases routeTableId?_addRouteTable separate needed needed' found with ⟨rfl, rfl⟩ | old
      · exact told
      · exact h.tables r' needed' id' old
    regions := h.regions_addRouteTable r.1.name r.2 id
    remote := by
      intro key
      show m.remoteRouteTables.contains key ↔ _
      rw [h.remote, tableIds_addRouteTable, if_pos rfl, SortedMap.contains_insert]
      constructor
      · exact fun ⟨foreign, there⟩ => ⟨foreign, .inr there⟩
      · rintro ⟨⟨r', needed', rfl, foreign⟩, same | there⟩
        · rw [separate r' needed' r needed same] at foreign
          exact absurd own foreign
        · exact ⟨⟨r', needed', rfl, foreign⟩, there⟩ }

theorem Reflects.addRemoteRouteTable (foreign : r.1.account ≠ scope.account) :
    (m.addRemoteRouteTable scope.region r.1.name r.2 id).Reflects k scope n ls :=
  { h with
    tables := by
      intro r' needed' id' found
      rcases routeTableId?_addRouteTable separate needed needed' found with ⟨rfl, rfl⟩ | old
      · exact told
      · exact h.tables r' needed' id' old
    regions := h.regions_addRouteTable r.1.name r.2 id
    remote := by
      intro key
      have tables : (m.addRemoteRouteTable scope.region r.1.name r.2 id).tableIds scope.region =
          (m.tableIds scope.region).insert (Key.routeTable r.1.name r.2) id :=
        (tableIds_addRouteTable ..).trans (if_pos rfl)
      show (NameSet.add m.remoteRouteTables _).contains key ↔ _
      rw [NameSet.contains_add, h.remote, tables, SortedMap.contains_insert]
      constructor
      · rintro (rfl | ⟨remote, there⟩)
        · exact ⟨⟨r, needed, rfl, foreign⟩, .inl rfl⟩
        · exact ⟨remote, .inr there⟩
      · rintro ⟨remote, rfl | there⟩
        · exact .inl rfl
        · exact .inr ⟨remote, there⟩ }

end AddRouteTable

/-! ## Maps that are filled -/

/-- A map renders what is known of some needs: it has an entry for each of them and for nothing
else, and says what is known. -/
structure Renders (k : Knowledge) (scope : Scope) (n : Needs) (m : UnitMap) : Prop where
  holds : m.Holds scope (n.gateways.map fun g => Key.gateway g.name g.account)
    (n.tables.map fun r => (scope.region, Key.routeTable r.1.name r.2)) n.attachments
  reflects : m.Reflects k scope n n.prefixLists

/-- A map that renders what is known is there only if all that is needed is known. -/
theorem Renders.covers (h : m.Renders k scope n) : k.Covers scope n where
  gateways := by
    intro g needed none
    obtain ⟨id, there⟩ := Option.isSome_iff_exists.mp
      (h.holds.gateways.mpr (List.mem_map_of_mem needed))
    exact nomatch none.symm.trans (h.reflects.gateways g needed id there)
  tables := by
    intro r needed none
    have there := h.holds.tables.mpr
      (List.mem_map_of_mem (f := fun r => (scope.region, Key.routeTable r.1.name r.2)) needed)
    obtain ⟨id, there⟩ := Option.isSome_iff_exists.mp there
    rw [← routeTableId?_eq] at there
    exact nomatch none.symm.trans (h.reflects.tables r needed id there)
  attachments := by
    intro a needed none
    have there : (a.key, a) ∈ m.described :=
      h.holds.attachments.mem_iff.mpr (List.mem_map.mpr ⟨a, needed, rfl⟩)
    obtain ⟨e, listed, same⟩ := List.mem_map.mp there
    have told := h.reflects.attachments e.1 e.2 (SortedMap.mem_entries.mp listed)
    rw [(Prod.mk.inj same).2, none] at told
    exact nomatch told
  prefixLists := by
    intro name needed none
    obtain ⟨id, there⟩ := Option.isSome_iff_exists.mp ((h.reflects.listed name).mpr needed)
    exact nomatch none.symm.trans (h.reflects.prefixLists name id there)

/-- The ids of the route tables in the unit's region are all that a map has of route tables. -/
theorem Reflects.routeTables (h : m.Reflects k scope n ls) (region : String) :
    m.routeTables.get? region =
      if region = scope.region ∧ m.tableIds scope.region ≠ .empty then
        some (m.tableIds scope.region)
      else none := by
  cases found : m.routeTables.get? region with
  | some ids =>
    obtain ⟨rfl, filled⟩ := h.regions region ids found
    have same : m.tableIds scope.region = ids := by
      rw [tableIds, found]
      rfl
    rw [same, if_pos ⟨rfl, filled⟩]
  | none =>
    rw [if_neg]
    rintro ⟨rfl, filled⟩
    rw [tableIds, found] at filled
    exact filled rfl

section Unique

variable (h : m.Renders k scope n) (h' : m'.Renders k scope n)
include h h'

theorem Renders.gateways_eq : m.gateways = m'.gateways := by
  refine SortedMap.ext_contains (fun key => h.holds.gateways.trans h'.holds.gateways.symm) ?_
  intro key id id' found found'
  obtain ⟨g, needed, rfl⟩ := List.mem_map.mp
    (h.holds.gateways.mp (Option.isSome_iff_exists.mpr ⟨id, found⟩))
  exact Option.some.inj ((h.reflects.gateways g needed id found).symm.trans
    (h'.reflects.gateways g needed id' found'))

theorem Renders.tableIds_eq : m.tableIds scope.region = m'.tableIds scope.region := by
  refine SortedMap.ext_contains (fun key => h.holds.tables.trans h'.holds.tables.symm) ?_
  intro key id id' found found'
  obtain ⟨r, needed, same⟩ := List.mem_map.mp
    (h.holds.tables.mp (Option.isSome_iff_exists.mpr ⟨id, found⟩))
  obtain ⟨-, rfl⟩ := Prod.mk.inj same
  rw [← routeTableId?_eq] at found found'
  exact Option.some.inj ((h.reflects.tables r needed id found).symm.trans
    (h'.reflects.tables r needed id' found'))

/-- Under one key there is one attachment, because the keys of those needed differ. -/
theorem Renders.attachments_eq : m.attachments = m'.attachments := by
  refine SortedMap.ext_contains
    (fun key => h.holds.hasAttachment.trans h'.holds.hasAttachment.symm) ?_
  intro key x x' found found'
  have keys : x.descriptor.key = x'.descriptor.key :=
    (h.holds.key_of_found found).trans (h'.holds.key_of_found found').symm
  have same : x.descriptor = x'.descriptor :=
    List.inj_on_of_nodup_map h.holds.nodup_keys (h.holds.mem_of_found found)
      (h'.holds.mem_of_found found') keys
  have told := h.reflects.attachments key x found
  rw [same] at told
  exact Option.some.inj (told.symm.trans (h'.reflects.attachments key x' found'))

/-- One map at most renders what is known. -/
theorem Renders.unique : m = m' := by
  have scopes : m.scope = m'.scope := h.holds.scope.trans h'.holds.scope.symm
  have gateways := h.gateways_eq h'
  have tables := h.tableIds_eq h'
  have attachments := h.attachments_eq h'
  have routeTables : m.routeTables = m'.routeTables := by
    apply SortedMap.ext_get?
    intro region
    rw [h.reflects.routeTables, h'.reflects.routeTables, tables]
  have prefixLists : m.prefixLists = m'.prefixLists := by
    refine SortedMap.ext_contains
      (fun name => (h.reflects.listed name).trans (h'.reflects.listed name).symm) ?_
    intro name id id' found found'
    exact Option.some.inj ((h.reflects.prefixLists name id found).symm.trans
      (h'.reflects.prefixLists name id' found'))
  have remote : m.remoteRouteTables = m'.remoteRouteTables := by
    refine SortedMap.ext_contains (fun key => ?_) fun _ _ _ _ _ => rfl
    rw [h.reflects.remote, h'.reflects.remote, tables]
  cases m
  cases m'
  simp only at scopes gateways routeTables attachments prefixLists remote
  rw [scopes, gateways, routeTables, attachments, prefixLists, remote]

end Unique

/-- The order of the needs does not show in a map. -/
theorem Renders.perm (h : m.Renders k scope n) {n' : Needs} (perm : n.Perm n') :
    m.Renders k scope n' where
  holds := by
    have held := h.holds.congr (fun _ => (perm.gateways.map _).mem_iff)
      fun _ => (perm.tables.map _).mem_iff
    exact ⟨held.scope, held.gateways, held.tables,
      held.attachments.trans (perm.attachments.map _)⟩
  reflects :=
    { h.reflects with
      gateways := fun g needed => h.reflects.gateways g (perm.gateways.mem_iff.mpr needed)
      tables := fun r needed => h.reflects.tables r (perm.tables.mem_iff.mpr needed)
      listed := fun name => (h.reflects.listed name).trans perm.prefixLists.mem_iff
      remote := by
        intro key
        rw [h.reflects.remote]
        simp only [perm.tables.mem_iff] }

/-! ## Stages -/

open Lookup

variable {v : Vantage} {answer : Query → Answer} {t : Topology} {ds : List Attachment}

/-- A step that leaves a map saying what is known, and fails only if something that is needed is
not known. -/
def Reflecting (v : Vantage) (answer : Query → Answer) (n : Needs) (ls : List String)
    (m : UnitMap) (x : Lookup UnitMap) : Prop :=
  Meets (fun s => m.Reflects (v.knowledge answer) v.caller n ls ∧ v.Informed answer s) x
    (fun m' s => m'.Reflects (v.knowledge answer) v.caller n ls ∧ v.Informed answer s)
    fun _ => ¬(v.knowledge answer).Covers v.caller n

/-- What the map says may be used for the step. -/
theorem reflecting_of {x : Lookup UnitMap}
    (h : m.Reflects (v.knowledge answer) v.caller n ls → Reflecting v answer n ls m x) :
    Reflecting v answer n ls m x :=
  Meets.assuming fun reflects =>
    (h reflects).weaken (fun _ hs => ⟨reflects, hs⟩) (fun _ _ hs => hs) fun _ hs => hs

theorem reflecting_pure
    (h : m.Reflects (v.knowledge answer) v.caller n ls →
      m'.Reflects (v.knowledge answer) v.caller n ls) :
    Reflecting v answer n ls m (pure m') :=
  meets_pure fun _ hs => ⟨h hs.1, hs.2⟩

/-- A step may begin with a map that says more. -/
theorem Reflecting.after {x : Lookup UnitMap} (hx : Reflecting v answer n ls m' x)
    (h : m.Reflects (v.knowledge answer) v.caller n ls →
      m'.Reflects (v.knowledge answer) v.caller n ls) :
    Reflecting v answer n ls m x :=
  hx.weaken (fun _ hs => ⟨h hs.1, hs.2⟩) (fun _ _ hs => hs) fun _ hs => hs

theorem Reflecting.bind {x : Lookup UnitMap} {f : UnitMap → Lookup UnitMap}
    (hx : Reflecting v answer n ls m x) (hf : ∀ m, Reflecting v answer n ls m (f m)) :
    Reflecting v answer n ls m (x >>= f) :=
  Meets.bind _ hx hf

theorem reflecting_foldlM {α : Type} {f : UnitMap → α → Lookup UnitMap} {as : List α}
    (step : ∀ a ∈ as, ∀ m, Reflecting v answer n ls m (f m a)) (m : UnitMap) :
    Reflecting v answer n ls m (as.foldlM f m) :=
  meets_foldlM_of_mem step m

/-- A request for something that is needed, and what is done with its value. -/
theorem reflecting_learn {x : Lookup String} {told : Option String}
    {next : String → Lookup UnitMap}
    (learned : Meets (v.Informed answer) x (fun id s => told = some id ∧ v.Informed answer s)
      fun _ => told = none)
    (needed : (v.knowledge answer).Covers v.caller n → told ≠ none)
    (h : ∀ id, told = some id → Reflecting v answer n ls m (next id)) :
    Reflecting v answer n ls m (x >>= next) := by
  refine Meets.assuming fun reflects => ?_
  refine (learned.weaken (fun _ hs => hs) (fun _ _ hs => hs)
    fun _ unknown covers => needed covers unknown).bind _ fun id => Meets.assuming fun told => ?_
  exact (h id told).weaken (fun _ hs => ⟨reflects, hs⟩) (fun _ _ hs => hs) fun _ hs => hs

section Fixed

variable (fixed : v.backend = .fixed answer) (legible : Legible n.gateways n.tables)
include fixed legible

theorem resolveRouteTable_reflecting {g : Gateway} (own : g ∈ ownGateways t v.caller)
    {table : GatewayRouteTable} (needed : (⟨g.name, g.account⟩, table.name) ∈ n.tables)
    (m : UnitMap) : Reflecting v answer n ls m (resolveRouteTable v g m table) := by
  obtain ⟨-, account, region⟩ := mem_ownGateways.mp own
  have here : (v.knowledge answer).routeTableId v.caller (⟨g.name, g.account⟩, table.name) =
      v.told answer (.transitGatewayRouteTable g.name table.name) v.caller :=
    congrArg (v.told answer _) (scope_of_own own)
  refine reflecting_learn (Vantage.learn_own_told fixed _) (fun covers => ?_) fun id told =>
    reflecting_pure fun h => ?_
  · rw [← here]
    exact covers.tables _ needed
  · rw [region]
    exact h.addRouteTable legible.tableKeys needed (here.trans told) account

theorem resolveGateway_reflecting {g : Gateway} (own : g ∈ ownGateways t v.caller)
    (needed : (⟨g.name, g.account⟩ : GatewayRef) ∈ n.gateways)
    (tables : ∀ table ∈ g.routeTables, (⟨g.name, g.account⟩, table.name) ∈ n.tables)
    (m : UnitMap) : Reflecting v answer n ls m (resolveGateway v m g) := by
  have here : (v.knowledge answer).gatewayId v.caller ⟨g.name, g.account⟩ =
      v.told answer (.transitGateway g.name) v.caller :=
    congrArg (v.told answer _) (scope_of_own own)
  refine reflecting_learn (Vantage.learn_own_told fixed _) (fun covers => ?_) fun id told => ?_
  · rw [← here]
    exact covers.gateways _ needed
  · refine Reflecting.after (reflecting_foldlM (f := resolveRouteTable v g)
      (fun table htable m =>
        resolveRouteTable_reflecting fixed legible own (tables table htable) m) _) fun h => ?_
    exact h.addGateway legible.gatewayKeys needed (here.trans told)

theorem resolveRemoteRouteTable_reflecting {a : Attachment}
    (relevant : concerns v.caller a = true) (foreign : a.gatewayAccount ≠ v.caller.account)
    {g : Gateway} (name : g.name = a.gateway) {table : String}
    (needed : g.hasRouteTable table = true →
      (⟨a.gateway, a.gatewayAccount⟩, table) ∈ n.tables)
    (m : UnitMap) : Reflecting v answer n ls m (resolveRemoteRouteTable v a g m table) := by
  unfold resolveRemoteRouteTable
  cases defined : g.hasRouteTable table with
  | false => exact reflecting_pure id
  | true =>
    split
    · exact reflecting_pure id
    · have needed := needed defined
      have there : (v.knowledge answer).routeTableId v.caller
          (⟨a.gateway, a.gatewayAccount⟩, table) =
            v.told answer (.transitGatewayRouteTable a.gateway table) a.gatewayScope :=
        congrArg (v.told answer _) (gatewayScope_of_concerns relevant).symm
      rw [name, region_of_concerns relevant]
      refine reflecting_learn
        (Vantage.learn_told fixed fun _ => ⟨legible.tablePaths _ needed, rfl⟩)
        (fun covers => ?_) fun id told => reflecting_pure fun h => ?_
      · rw [← there]
        exact covers.tables _ needed
      · exact h.addRemoteRouteTable legible.tableKeys needed (there.trans told) foreign

theorem resolveRemoteRouteTables_reflecting {a : Attachment}
    (relevant : concerns v.caller a = true)
    (foreign : (a.owner == v.caller && !ownsGateway v.caller a) = true)
    (needed : ∀ table ∈ foreignTables t v.caller a,
      (⟨a.gateway, a.gatewayAccount⟩, table) ∈ n.tables)
    (m : UnitMap) : Reflecting v answer n ls m (resolveRemoteRouteTables v t m a) := by
  have other : a.gatewayAccount ≠ v.caller.account := by
    simp only [ownsGateway, Bool.and_eq_true, Bool.not_eq_true', beq_eq_false_iff_ne] at foreign
    exact foreign.2
  unfold resolveRemoteRouteTables
  unfold foreignTables at needed
  rw [if_pos foreign] at needed
  cases found : t.gateway? a.gateway a.gatewayAccount with
  | none => exact reflecting_pure id
  | some g =>
    rw [found] at needed
    refine reflecting_foldlM (fun table htable m => ?_) m
    refine resolveRemoteRouteTable_reflecting fixed legible relevant other
      (Topology.gateway?_some found).2.1 (fun defined => ?_) m
    exact needed table (List.mem_filter.mpr ⟨htable, defined⟩)

omit legible in
/-- The id of an attachment of another owner is what is known of it on its gateway. -/
theorem resolveForeign_reflecting {a : Attachment}
    (free : m.attachments.contains a.key = false) (foreign : a.owner ≠ v.caller)
    (known : (m.gatewayId? a.gateway a.gatewayAccount).isSome = true)
    (plain : a.published.Plain) (needed : a ∈ n.attachments)
    (gateway : (⟨a.gateway, a.gatewayAccount⟩ : GatewayRef) ∈ n.gateways) :
    Reflecting v answer n ls m (resolveAttachment v t m a) := by
  obtain ⟨gatewayId, known⟩ := Option.isSome_iff_exists.mp known
  rw [resolveAttachment_foreign free foreign known]
  refine reflecting_of fun reflects => ?_
  have gatewayTold := reflects.gateways _ gateway gatewayId known
  have there : (v.knowledge answer).attachmentId v.caller a gatewayId =
      v.toldOfAttachment answer a.owner gatewayId a.name := if_neg foreign
  refine reflecting_learn (Vantage.resolveForeign_told fixed foreign plain)
    (fun covers unknown => ?_) fun id told => reflecting_pure fun h => h.addAttachment ?_
  · obtain ⟨gatewayId', id, gatewayTold', attachment⟩ := covers.attachment needed
    rw [← Option.some.inj (gatewayTold.symm.trans gatewayTold'), there, unknown] at attachment
    exact nomatch attachment
  · exact Knowledge.resolved_eq_some.mpr ⟨rfl, gatewayTold, there.trans told⟩

/-- Once its id is known an attachment is added to the map, after its gateway if that is not there
yet. -/
theorem link_reflecting {a : Attachment} (relevant : concerns v.caller a = true)
    (gateway : (⟨a.gateway, a.gatewayAccount⟩ : GatewayRef) ∈ n.gateways) {id : String}
    (attachment : ∀ gatewayId,
      (v.knowledge answer).attachmentId v.caller a gatewayId = some id) :
    Reflecting v answer n ls m
      (match m.gatewayId? a.gateway a.gatewayAccount with
      | some gatewayId => pure (m.addAttachment a.key ⟨id, gatewayId, a⟩)
      | none => do
        let gatewayId ← v.learn (.transitGateway a.gateway) a.gatewayScope
        pure ((m.addGateway a.gateway a.gatewayAccount gatewayId).addAttachment a.key
          ⟨id, gatewayId, a⟩)) := by
  cases known : m.gatewayId? a.gateway a.gatewayAccount with
  | some gatewayId =>
    refine reflecting_pure fun h => h.addAttachment ?_
    exact Knowledge.resolved_eq_some.mpr
      ⟨rfl, h.gateways _ gateway _ known, attachment gatewayId⟩
  | none =>
    have there : (v.knowledge answer).gatewayId v.caller ⟨a.gateway, a.gatewayAccount⟩ =
        v.told answer (.transitGateway a.gateway) a.gatewayScope :=
      congrArg (v.told answer _) (gatewayScope_of_concerns relevant).symm
    refine reflecting_learn
      (Vantage.learn_told fixed fun _ => ⟨legible.gatewayPaths _ gateway, rfl⟩)
      (fun covers => ?_) fun gatewayId told => reflecting_pure fun h => ?_
    · rw [← there]
      exact covers.gateways _ gateway
    · have told := there.trans told
      refine (h.addGateway legible.gatewayKeys gateway told).addAttachment ?_
      exact Knowledge.resolved_eq_some.mpr ⟨rfl, told, attachment gatewayId⟩

/-- The id of an attachment of the unit is what the unit reads, on a gateway that may be asked for
afterwards. -/
theorem resolveOwn_reflecting {a : Attachment} (free : m.attachments.contains a.key = false)
    (own : a.owner = v.caller) (relevant : concerns v.caller a = true)
    (needed : a ∈ n.attachments)
    (gateway : (⟨a.gateway, a.gatewayAccount⟩ : GatewayRef) ∈ n.gateways)
    (tables : ∀ table ∈ foreignTables t v.caller a,
      (⟨a.gateway, a.gatewayAccount⟩, table) ∈ n.tables) :
    Reflecting v answer n ls m (resolveAttachment v t m a) := by
  rw [resolveAttachment_own free own]
  refine Reflecting.bind ?_ fun m₁ => ?_
  · split
    · exact reflecting_pure id
    · next foreign =>
      exact resolveRemoteRouteTables_reflecting fixed legible relevant (by simp [own, foreign])
        tables m
  · have here (gatewayId : String) : (v.knowledge answer).attachmentId v.caller a gatewayId =
        v.told answer a.published v.caller := by
      rw [Knowledge.attachmentId, if_pos own, own]
      rfl
    refine reflecting_learn (Vantage.resolveOwn_told fixed) (fun covers unknown => ?_)
      fun id told => ?_
    · obtain ⟨gatewayId, id, -, attachment⟩ := covers.attachment needed
      exact nomatch unknown.symm.trans ((here _).symm.trans attachment)
    · exact link_reflecting fixed legible relevant gateway fun gatewayId =>
        (here gatewayId).trans told

omit legible in
/-- In the map are the prefix lists that have been resolved so far. -/
theorem resolvePrefixLists_reflecting (m : UnitMap) :
    Meets (fun s => m.Reflects (v.knowledge answer) v.caller (t.needs v.caller ds) [] ∧
        v.Informed answer s)
      ((t.network.prefixLists.filter
        (·.isDeployedTo v.caller.account v.caller.region)).foldlM (resolvePrefixList v) m)
      (fun m s => m.Reflects (v.knowledge answer) v.caller (t.needs v.caller ds)
        (t.needs v.caller ds).prefixLists ∧ v.Informed answer s)
      fun _ => ¬(v.knowledge answer).Covers v.caller (t.needs v.caller ds) := by
  refine meets_foldlM (fun (before : List PrefixList) m s => m.Reflects (v.knowledge answer)
    v.caller (t.needs v.caller ds) (before.map (·.name)) ∧ v.Informed answer s) [] _ m ?_
  intro before l after m split
  rw [List.nil_append] at split
  have needed : l.name ∈ (t.needs v.caller ds).prefixLists := by
    unfold Topology.needs
    rw [split]
    exact List.mem_map_of_mem (List.mem_append_right _ List.mem_cons_self)
  refine Meets.assuming fun reflects => ?_
  refine ((Vantage.learn_own_told fixed (.prefixList l.name)).weaken (fun _ hs => hs)
    (fun _ _ hs => hs) fun _ unknown covers => covers.prefixLists _ needed unknown).bind _
      fun id => Meets.assuming fun told => meets_pure fun s hs => ⟨?_, hs⟩
  rw [List.map_append, List.map_singleton]
  exact reflects.addPrefixList told

end Fixed

/-! ## The whole -/

section Whole

variable (fixed : v.backend = .fixed answer)
  (described : t.attachments v.accounts v.caller = .ok ds)
  (legible : Legible (recordedGateways t v.caller ds) (recordedTables t v.caller ds))
  (plain : ∀ a ∈ ds, a.published.Plain)
include fixed described legible plain

/-- Attachments that have different keys are resolved one after another. -/
theorem resolveAttachments_reflecting
    (distinct : ((ds.filter (concerns v.caller)).map Attachment.key).Nodup)
    (held : HoldsOwn v t [] m) :
    Reflecting v answer (t.needs v.caller ds) ls m
      ((ds.filter (concerns v.caller)).foldlM (resolveAttachment v t) m) := by
  have step (before : List Attachment) (a : Attachment) (after : List Attachment) (m : UnitMap)
      (split : [] ++ ds.filter (concerns v.caller) = before ++ a :: after) :
      Meets (fun s => HoldsOwn v t before m ∧
          m.Reflects (v.knowledge answer) v.caller (t.needs v.caller ds) ls ∧
          v.Informed answer s)
        (resolveAttachment v t m a)
        (fun m s => HoldsOwn v t (before ++ [a]) m ∧
          m.Reflects (v.knowledge answer) v.caller (t.needs v.caller ds) ls ∧
          v.Informed answer s)
        fun _ => ¬(v.knowledge answer).Covers v.caller (t.needs v.caller ds) := by
    refine Meets.assuming fun held => Meets.and_ok ?_ fun _ _ _ run => held.step run
    rw [List.nil_append] at split
    have needed : a ∈ ds.filter (concerns v.caller) := by
      rw [split]
      exact List.mem_append_right _ List.mem_cons_self
    obtain ⟨listed, relevant⟩ := List.mem_filter.mp needed
    have free : m.attachments.contains a.key = false := by
      obtain ⟨gateways, tables, holds, -⟩ := held
      rw [Bool.eq_false_iff]
      intro taken
      rw [split, List.map_append, List.map_cons, List.nodup_append] at distinct
      exact distinct.2.2 _ (holds.hasAttachment.mp taken) _ List.mem_cons_self rfl
    have gateway : (⟨a.gateway, a.gatewayAccount⟩ : GatewayRef) ∈
        (t.needs v.caller ds).gateways :=
      List.mem_append_right _ (List.mem_map.mpr ⟨a, needed, rfl⟩)
    by_cases own : a.owner = v.caller
    · refine resolveOwn_reflecting fixed legible free own relevant needed gateway
        fun table htable => ?_
      exact List.mem_append_right _
        (List.mem_flatMap.mpr ⟨a, needed, List.mem_map.mpr ⟨table, htable, rfl⟩⟩)
    · exact resolveForeign_reflecting fixed free own
        (held.hasOwn.of_foreign described listed relevant own) (plain a listed) needed gateway
  have resolved := meets_foldlM _ [] (ds.filter (concerns v.caller)) m step
  exact resolved.weaken (fun _ hs => ⟨held, hs⟩) (fun _ _ hs => hs.2) fun _ hs => hs

/-- A map is built from what is known, and none is built only if something that is needed is not
known. -/
theorem build_reflecting
    (distinct : ((ds.filter (concerns v.caller)).map Attachment.key).Nodup) :
    Meets (v.Informed answer) (build v t)
      (fun m _ => m.Reflects (v.knowledge answer) v.caller (t.needs v.caller ds)
        (t.needs v.caller ds).prefixLists)
      fun _ => ¬(v.knowledge answer).Covers v.caller (t.needs v.caller ds) := by
  unfold build
  have own : Reflecting v answer (t.needs v.caller ds) [] { scope := v.caller }
      ((ownGateways t v.caller).foldlM (resolveGateway v) { scope := v.caller }) := by
    refine reflecting_foldlM (fun g hg m =>
      resolveGateway_reflecting fixed legible hg ?_ (fun table htable => ?_) m) _
    · exact List.mem_append_left _ (List.mem_map.mpr ⟨g, hg, rfl⟩)
    · exact List.mem_append_left _
        (List.mem_flatMap.mpr ⟨g, hg, List.mem_map.mpr ⟨table, htable, rfl⟩⟩)
  have began := (own.and_ok fun _ _ _ run => HoldsOwn.start run).weaken
    (fun s (hs : v.Informed answer s) => ⟨reflects_start _ _ _, hs⟩) (fun _ _ hs => hs)
    fun _ hs => hs
  refine began.bind _ fun m => Meets.assuming fun held => ?_
  rw [described]
  show Meets _ ((ds.filter (concerns v.caller)).foldlM (resolveAttachment v t) m >>= _) _ _
  refine Meets.bind _
    (resolveAttachments_reflecting fixed described legible plain distinct held) fun m => ?_
  exact (resolvePrefixLists_reflecting fixed m).mono fun _ _ hs => hs.1

/-- A unit builds the map that renders what it is told, if there is one, and none otherwise. -/
theorem built_iff :
    (∃ s, (build v t).run {} = .ok m s) ↔
      m.Renders (v.knowledge answer) v.caller (t.needs v.caller ds) := by
  have renders {m : UnitMap} {s : Run} (run : (build v t).run {} = .ok m s) :
      m.Renders (v.knowledge answer) v.caller (t.needs v.caller ds) := by
    obtain ⟨ds', described', held⟩ := build_holds run
    obtain rfl := Except.ok.inj (described'.symm.trans described)
    have built := build_reflecting fixed described legible plain held.nodup_keys
    refine ⟨?_, (built.ok (v.informed_start answer) run).2⟩
    unfold Topology.needs
    simpa only [List.map_map, Function.comp_def] using held
  constructor
  · rintro ⟨s, run⟩
    exact renders run
  · intro rendered
    cases run : (build v t).run {} with
    | ok m' s =>
      rw [rendered.unique (renders run)]
      exact ⟨s, rfl⟩
    | error e s =>
      have built := build_reflecting fixed described legible plain rendered.holds.nodup_keys
      exact ((built.error (v.informed_start answer) run).2 rendered.covers).elim

end Whole

end UnitMap

end Interlink
