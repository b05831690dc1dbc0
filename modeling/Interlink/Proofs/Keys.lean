import Interlink.Plan
import Interlink.Proofs.UnitMap

/-!
# When composite keys tell things apart

A key is joined from names by underscores, and names may hold underscores. So a
key gives back the parts of its names, in order, but not where one name ends and
the next begins: two keys are equal if and only if their names have the same
parts (`Key.parts_gateway` and what follows it). A unit's keys therefore separate
what they name exactly where the parts do (`UnitMap.keysSeparate_iff`), which
validation does not see to; it only keeps the names of gateways apart inside a
region. That is enough where no name holds an underscore.
-/

namespace Interlink

/-! ## Parts of names -/

namespace Key

/-- What stands between the underscores of a name. -/
def parts (name : String) : List (List Char) := name.toList.splitOn '_'

/-- The parts of some names, in order. -/
def partsOf (names : List String) : List (List Char) := names.flatMap parts

/-- A name is nothing but its parts. -/
theorem parts_injective {a b : String} (h : parts a = parts b) : a = b := by
  unfold parts at h
  have joined := congrArg (List.intercalate ['_']) h
  rw [List.intercalate_splitOn, List.intercalate_splitOn] at joined
  exact String.toList_inj.mp joined

theorem parts_joined (a b : String) : parts (a ++ "_" ++ b) = parts a ++ parts b := by
  have split : (a ++ "_" ++ b).toList = a.toList ++ '_' :: b.toList := by simp
  unfold parts
  rw [split, List.splitOn_append_cons_self]

theorem parts_plain {name : String} (h : '_' ∉ name.toList) : parts name = [name.toList] :=
  List.splitOn_eq_singleton h

/-- Names without underscores are their own parts. -/
theorem partsOf_injective {as bs : List String} (ha : ∀ a ∈ as, '_' ∉ a.toList)
    (hb : ∀ b ∈ bs, '_' ∉ b.toList) (h : partsOf as = partsOf bs) : as = bs := by
  have plain {ns : List String} (hn : ∀ n ∈ ns, '_' ∉ n.toList) :
      partsOf ns = ns.map String.toList := by
    unfold partsOf
    induction ns with
    | nil => rfl
    | cons n ns ih =>
      rw [List.flatMap_cons, parts_plain (hn n List.mem_cons_self),
        ih fun m hm => hn m (List.mem_cons_of_mem _ hm)]
      rfl
  rw [plain ha, plain hb] at h
  exact List.map_inj_right (fun _ _ => String.toList_inj.mp) |>.mp h

theorem parts_gateway (gateway account : String) :
    parts (Key.gateway gateway account) = partsOf [gateway, account] := by
  simp [Key.gateway, parts_joined, partsOf]

theorem parts_routeTable (gateway table : String) :
    parts (routeTable gateway table) = partsOf [gateway, table] := by
  simp [routeTable, parts_joined, partsOf]

theorem parts_attachment (gateway account child : String) :
    parts (attachment gateway account child) = partsOf [gateway, account, child] := by
  simp [attachment, parts_joined, partsOf]

/-- Two underscores enclose a part with nothing in it. -/
theorem parts_edge (gateway account child table : String) :
    parts (edge (attachment gateway account child) table) =
      partsOf [gateway, account, child, "", table] := by
  have joined : edge (attachment gateway account child) table =
      attachment gateway account child ++ "_" ++ "" ++ "_" ++ table := by
    simp [edge, String.append_assoc]
  rw [joined, parts_joined, parts_joined, parts_attachment]
  simp [partsOf]

end Key

/-! ## What keys name -/

/-- An attachment as its key names it. -/
@[ext]
structure AttachmentRef where
  gateway : GatewayRef
  /-- The account that owns the child. -/
  owner : String
  child : String
deriving DecidableEq, Repr, Inhabited

/-- The key of an attachment. -/
def AttachmentRef.key (r : AttachmentRef) : String :=
  Key.attachment r.gateway.name r.owner r.child

/-- How an attachment is named. -/
def Attachment.ref (a : Attachment) : AttachmentRef :=
  ⟨⟨a.gateway, a.gatewayAccount⟩, a.owner.account, a.child⟩

/-- Different things have different keys. -/
def Separates {α κ : Type} (key : α → κ) (as : List α) : Prop :=
  ∀ a ∈ as, ∀ b ∈ as, key a = key b → a = b

theorem separates_congr {α κ μ : Type} {key : α → κ} {key' : α → μ} {as : List α}
    (same : ∀ a b, key a = key b ↔ key' a = key' b) :
    Separates key as ↔ Separates key' as := by
  constructor
  · exact fun h a ha b hb equal => h a ha b hb ((same a b).mpr equal)
  · exact fun h a ha b hb equal => h a ha b hb ((same a b).mp equal)

namespace UnitMap

/-- The attachments that concern a unit, as their keys name them. -/
def attachmentRefs (scope : Scope) (ds : List Attachment) : List AttachmentRef :=
  (ds.filter (concerns scope)).map Attachment.ref

/-- The edges of a unit, as their keys name them: its own attachments with the
route tables that they name. -/
def edgeRefs (scope : Scope) (ds : List Attachment) : List (AttachmentRef × String) :=
  (ds.filter (·.owner == scope)).flatMap fun a =>
    (a.associations ++ a.propagations).map fun table => (a.ref, table)

/-- The keys of a unit tell apart whatever it records. -/
structure KeysSeparate (t : Topology) (scope : Scope) (ds : List Attachment) : Prop where
  gateways : Separates (fun g => Key.gateway g.name g.account) (recordedGateways t scope ds)
  tables : Separates (fun r => Key.routeTable r.1.name r.2) (recordedTables t scope ds)
  attachments : Separates AttachmentRef.key (attachmentRefs scope ds)
  edges : Separates (fun r => Key.edge r.1.key r.2) (edgeRefs scope ds)

/-- The parts of the names tell apart whatever a unit records. -/
structure PartsSeparate (t : Topology) (scope : Scope) (ds : List Attachment) : Prop where
  gateways : Separates (fun g => Key.partsOf [g.name, g.account]) (recordedGateways t scope ds)
  tables : Separates (fun r => Key.partsOf [r.1.name, r.2]) (recordedTables t scope ds)
  attachments : Separates (fun r => Key.partsOf [r.gateway.name, r.owner, r.child])
    (attachmentRefs scope ds)
  edges : Separates (fun r => Key.partsOf [r.1.gateway.name, r.1.owner, r.1.child, "", r.2])
    (edgeRefs scope ds)

/-- The names of whatever a unit records. -/
def recordedNames (t : Topology) (scope : Scope) (ds : List Attachment) : List String :=
  ((recordedGateways t scope ds).flatMap fun g => [g.name, g.account]) ++
    (recordedTables t scope ds).map (·.2) ++
    ((attachmentRefs scope ds).flatMap fun r => [r.owner, r.child]) ++
    (edgeRefs scope ds).map (·.2)

variable {t : Topology} {scope : Scope} {ds : List Attachment}

/-- Keys are equal where the parts of the names are, and nowhere else. -/
theorem keysSeparate_iff : KeysSeparate t scope ds ↔ PartsSeparate t scope ds := by
  have equal {key key' : String} : key = key' ↔ Key.parts key = Key.parts key' :=
    ⟨congrArg Key.parts, Key.parts_injective⟩
  have gateways : ∀ g g' : GatewayRef,
      Key.gateway g.name g.account = Key.gateway g'.name g'.account ↔
        Key.partsOf [g.name, g.account] = Key.partsOf [g'.name, g'.account] := by
    intro g g'
    rw [equal, Key.parts_gateway, Key.parts_gateway]
  have tables : ∀ r r' : GatewayRef × String,
      Key.routeTable r.1.name r.2 = Key.routeTable r'.1.name r'.2 ↔
        Key.partsOf [r.1.name, r.2] = Key.partsOf [r'.1.name, r'.2] := by
    intro r r'
    rw [equal, Key.parts_routeTable, Key.parts_routeTable]
  have attachments : ∀ r r' : AttachmentRef, r.key = r'.key ↔
      Key.partsOf [r.gateway.name, r.owner, r.child] =
        Key.partsOf [r'.gateway.name, r'.owner, r'.child] := by
    intro r r'
    rw [equal, AttachmentRef.key, AttachmentRef.key, Key.parts_attachment, Key.parts_attachment]
  have edges : ∀ r r' : AttachmentRef × String, Key.edge r.1.key r.2 = Key.edge r'.1.key r'.2 ↔
      Key.partsOf [r.1.gateway.name, r.1.owner, r.1.child, "", r.2] =
        Key.partsOf [r'.1.gateway.name, r'.1.owner, r'.1.child, "", r'.2] := by
    intro r r'
    rw [equal, AttachmentRef.key, AttachmentRef.key, Key.parts_edge, Key.parts_edge]
  constructor
  · intro h
    exact ⟨(separates_congr gateways).mp h.gateways, (separates_congr tables).mp h.tables,
      (separates_congr attachments).mp h.attachments, (separates_congr edges).mp h.edges⟩
  · intro h
    exact ⟨(separates_congr gateways).mpr h.gateways, (separates_congr tables).mpr h.tables,
      (separates_congr attachments).mpr h.attachments, (separates_congr edges).mpr h.edges⟩

/-! ## Names without underscores -/

section Faultless

variable (faultless : t.Faultless) (described : t.attachments t.registry scope = .ok ds)
include faultless described

/-- A gateway that a unit records is defined in the unit's region. -/
theorem defined_of_recorded {r : GatewayRef} (hr : r ∈ recordedGateways t scope ds) :
    ∃ g ∈ t.network.gateways, r = ⟨g.name, g.account⟩ ∧ g.region = scope.region := by
  rcases List.mem_append.mp hr with own | attached
  · obtain ⟨g, hg, rfl⟩ := List.mem_map.mp own
    obtain ⟨defined, -, region⟩ := mem_ownGateways.mp hg
    exact ⟨g, defined, rfl, region⟩
  · obtain ⟨a, ha, rfl⟩ := List.mem_map.mp attached
    obtain ⟨listed, relevant⟩ := List.mem_filter.mp ha
    obtain ⟨g, found, region⟩ := (faultless.grounded described listed).gateway
    obtain ⟨defined, name, account⟩ := Topology.gateway?_some found
    exact ⟨g, defined, by rw [name, account], region.trans (region_of_concerns relevant)⟩

/-- Gateways that a unit records have different names. -/
theorem recorded_eq_of_name {r r' : GatewayRef} (hr : r ∈ recordedGateways t scope ds)
    (hr' : r' ∈ recordedGateways t scope ds) (name : r.name = r'.name) : r = r' := by
  obtain ⟨g, defined, rfl, region⟩ := defined_of_recorded faultless described hr
  obtain ⟨g', defined', rfl, region'⟩ := defined_of_recorded faultless described hr'
  rw [faultless.gateway_eq defined defined' name (region.trans region'.symm)]

omit faultless described in
theorem recorded_of_table {r : GatewayRef × String} (hr : r ∈ recordedTables t scope ds) :
    r.1 ∈ recordedGateways t scope ds := by
  rcases List.mem_append.mp hr with own | foreign
  · obtain ⟨g, hg, hr⟩ := List.mem_flatMap.mp own
    obtain ⟨table, -, rfl⟩ := List.mem_map.mp hr
    exact List.mem_append_left _ (List.mem_map.mpr ⟨g, hg, rfl⟩)
  · obtain ⟨a, ha, hr⟩ := List.mem_flatMap.mp foreign
    obtain ⟨table, -, rfl⟩ := List.mem_map.mp hr
    exact List.mem_append_right _ (List.mem_map.mpr ⟨a, ha, rfl⟩)

omit faultless described in
theorem recorded_of_attachment {r : AttachmentRef} (hr : r ∈ attachmentRefs scope ds) :
    r.gateway ∈ recordedGateways t scope ds := by
  obtain ⟨a, ha, rfl⟩ := List.mem_map.mp hr
  exact List.mem_append_right _ (List.mem_map.mpr ⟨a, ha, rfl⟩)

theorem attachment_of_edge {r : AttachmentRef × String} (hr : r ∈ edgeRefs scope ds) :
    r.1 ∈ attachmentRefs scope ds := by
  obtain ⟨a, ha, hr⟩ := List.mem_flatMap.mp hr
  obtain ⟨table, -, rfl⟩ := List.mem_map.mp hr
  obtain ⟨listed, own⟩ := List.mem_filter.mp ha
  have region := (faultless.grounded described listed).region
  refine List.mem_map.mpr ⟨a, List.mem_filter.mpr ⟨listed, ?_⟩, rfl⟩
  rw [beq_iff_eq.mp own] at region
  simp [concerns, own, region]

omit faultless described in
/-- A route table that a unit records is defined by a gateway. -/
theorem defined_of_table {r : GatewayRef × String} (hr : r ∈ recordedTables t scope ds) :
    ∃ g ∈ t.network.gateways, r.1 = ⟨g.name, g.account⟩ ∧ g.hasRouteTable r.2 = true := by
  rcases List.mem_append.mp hr with own | foreign
  · obtain ⟨g, hg, hr⟩ := List.mem_flatMap.mp own
    obtain ⟨table, htable, rfl⟩ := List.mem_map.mp hr
    refine ⟨g, (mem_ownGateways.mp hg).1, rfl, ?_⟩
    exact List.any_eq_true.mpr ⟨table, htable, beq_self_eq_true _⟩
  · obtain ⟨a, ha, hr⟩ := List.mem_flatMap.mp foreign
    obtain ⟨table, htable, rfl⟩ := List.mem_map.mp hr
    unfold foreignTables at htable
    split at htable
    · cases found : t.gateway? a.gateway a.gatewayAccount with
      | none =>
        rw [found] at htable
        exact nomatch htable
      | some g =>
        rw [found] at htable
        obtain ⟨defined, name, account⟩ := Topology.gateway?_some found
        exact ⟨g, defined, by rw [name, account], (List.mem_filter.mp htable).2⟩
    · exact nomatch htable

/-- Where no name of a gateway or an account holds an underscore, the keys of
gateways tell these apart. -/
theorem separates_gateways
    (plain : ∀ g ∈ recordedGateways t scope ds, '_' ∉ g.name.toList ∧ '_' ∉ g.account.toList) :
    Separates (fun g => Key.gateway g.name g.account) (recordedGateways t scope ds) := by
  intro g hg g' hg' equal
  have parts := congrArg Key.parts equal
  rw [Key.parts_gateway, Key.parts_gateway] at parts
  have names := Key.partsOf_injective (by simpa using plain g hg)
    (by simpa using plain g' hg') parts
  exact recorded_eq_of_name faultless described hg hg' (List.cons.inj names).1

/-- Where no name of a gateway or a route table holds an underscore, the keys of
route tables tell these apart. -/
theorem separates_tables
    (plain : ∀ r ∈ recordedTables t scope ds, '_' ∉ r.1.name.toList ∧ '_' ∉ r.2.toList) :
    Separates (fun r => Key.routeTable r.1.name r.2) (recordedTables t scope ds) := by
  intro r hr r' hr' equal
  have parts := congrArg Key.parts equal
  rw [Key.parts_routeTable, Key.parts_routeTable] at parts
  have names := Key.partsOf_injective (by simpa using plain r hr)
    (by simpa using plain r' hr') parts
  simp only [List.cons.injEq, and_true] at names
  exact Prod.ext (recorded_eq_of_name faultless described (recorded_of_table hr)
    (recorded_of_table hr') names.1) names.2

/-- Where no name of a gateway, an account or a child holds an underscore, the
keys of attachments tell these apart. -/
theorem separates_attachments
    (plain : ∀ r ∈ attachmentRefs scope ds,
      '_' ∉ r.gateway.name.toList ∧ '_' ∉ r.owner.toList ∧ '_' ∉ r.child.toList) :
    Separates AttachmentRef.key (attachmentRefs scope ds) := by
  intro r hr r' hr' equal
  have parts := congrArg Key.parts equal
  simp only [AttachmentRef.key, Key.parts_attachment] at parts
  have names := Key.partsOf_injective (by simpa using plain r hr)
    (by simpa using plain r' hr') parts
  simp only [List.cons.injEq, and_true] at names
  have gateway := recorded_eq_of_name faultless described (recorded_of_attachment hr)
    (recorded_of_attachment hr') names.1
  exact AttachmentRef.ext gateway names.2.1 names.2.2

/-- Where no name of what they connect holds an underscore either, the keys of
edges tell these apart. -/
theorem separates_edges
    (plain : ∀ r ∈ edgeRefs scope ds, '_' ∉ r.1.gateway.name.toList ∧
      '_' ∉ r.1.owner.toList ∧ '_' ∉ r.1.child.toList ∧ '_' ∉ r.2.toList) :
    Separates (fun r => Key.edge r.1.key r.2) (edgeRefs scope ds) := by
  intro r hr r' hr' equal
  have parts := congrArg Key.parts equal
  simp only [AttachmentRef.key, Key.parts_edge] at parts
  have names := Key.partsOf_injective (by simpa using plain r hr)
    (by simpa using plain r' hr') parts
  simp only [List.cons.injEq, and_true, true_and] at names
  have gateway := recorded_eq_of_name faultless described
    (recorded_of_attachment (attachment_of_edge faultless described hr))
    (recorded_of_attachment (attachment_of_edge faultless described hr')) names.1
  exact Prod.ext (AttachmentRef.ext gateway names.2.1 names.2.2.1) names.2.2.2

/-- Where no name holds an underscore, keys tell everything apart. -/
theorem keysSeparate_of_plain
    (plain : ∀ name ∈ recordedNames t scope ds, '_' ∉ name.toList) :
    KeysSeparate t scope ds := by
  simp only [recordedNames, List.forall_mem_append] at plain
  obtain ⟨⟨⟨gatewayNames, tableNames⟩, attachmentNames⟩, edgeNames⟩ := plain
  have gateway {g : GatewayRef} (hg : g ∈ recordedGateways t scope ds) :
      '_' ∉ g.name.toList ∧ '_' ∉ g.account.toList :=
    ⟨gatewayNames _ (List.mem_flatMap.mpr ⟨g, hg, by simp⟩),
      gatewayNames _ (List.mem_flatMap.mpr ⟨g, hg, by simp⟩)⟩
  have attachment {r : AttachmentRef} (hr : r ∈ attachmentRefs scope ds) :
      '_' ∉ r.gateway.name.toList ∧ '_' ∉ r.owner.toList ∧ '_' ∉ r.child.toList :=
    ⟨(gateway (recorded_of_attachment hr)).1,
      attachmentNames _ (List.mem_flatMap.mpr ⟨r, hr, by simp⟩),
      attachmentNames _ (List.mem_flatMap.mpr ⟨r, hr, by simp⟩)⟩
  refine ⟨?_, ?_, ?_, ?_⟩
  · exact separates_gateways faultless described fun g hg => gateway hg
  · exact separates_tables faultless described fun r hr =>
      ⟨(gateway (recorded_of_table hr)).1, tableNames _ (List.mem_map_of_mem hr)⟩
  · exact separates_attachments faultless described fun r hr => attachment hr
  · refine separates_edges faultless described fun r hr => ?_
    obtain ⟨gatewayName, owner, child⟩ := attachment (attachment_of_edge faultless described hr)
    exact ⟨gatewayName, owner, child, edgeNames _ (List.mem_map_of_mem hr)⟩

end Faultless

end UnitMap

/-! ## The keys of a unit -/

open UnitMap

/-- Answers that tell what others share from what a unit owns. -/
def ownOrShared : Query → Answer
  | .share .. => .value "shared"
  | _ => .value "own"

/-- Whatever a unit of a valid topology records stands under its keys, and these
tell it apart if and only if the parts of the names do; they do so where no name
holds an underscore. -/
theorem keys_separate_iff {t : Topology} (valid : t.validate = .ok ()) {scope : Scope}
    {ds : List Attachment} (described : t.attachments t.registry scope = .ok ds) :
    (∀ backend m s s', (UnitMap.build (t.vantage scope backend) t).run s = .ok m s' →
      m.Holds scope
        ((recordedGateways t scope ds).map fun g => Key.gateway g.name g.account)
        ((recordedTables t scope ds).map fun r => (scope.region, Key.routeTable r.1.name r.2))
        (ds.filter (concerns scope))) ∧
    (KeysSeparate t scope ds ↔ PartsSeparate t scope ds) ∧
    ((∀ name ∈ recordedNames t scope ds, '_' ∉ name.toList) → KeysSeparate t scope ds) := by
  refine ⟨?_, keysSeparate_iff,
    keysSeparate_of_plain (Topology.faultless_of_validate valid) described⟩
  intro backend m s s' run
  obtain ⟨ds', described', held⟩ := build_holds run
  have same : ds' = ds := Except.ok.inj (described'.symm.trans described)
  exact same ▸ held

/-- No name in the sample holds an underscore, so its keys tell everything
apart. -/
theorem keys_separate_iff_sample :
    ∃ ds, Topology.sample.attachments Topology.sample.registry ⟨"Workload", "us-east-1"⟩ = .ok ds ∧
      KeysSeparate .sample ⟨"Workload", "us-east-1"⟩ ds ∧
      ∃ m s, (UnitMap.build (Topology.sample.vantage ⟨"Workload", "us-east-1"⟩
          (.fixed ownOrShared)) .sample).run {} = .ok m s ∧
        m.gateways.contains "Core_Network" := by
  obtain ⟨ds, described, recorded, plain⟩ :
      ∃ ds, Topology.sample.attachments Topology.sample.registry
          ⟨"Workload", "us-east-1"⟩ = .ok ds ∧
        recordedGateways .sample ⟨"Workload", "us-east-1"⟩ ds = [⟨"Core", "Network"⟩] ∧
        ∀ name ∈ recordedNames .sample ⟨"Workload", "us-east-1"⟩ ds, '_' ∉ name.toList :=
    ⟨_, rfl, by decide +kernel, by decide +kernel⟩
  have separate := keys_separate_iff Topology.sample_valid described
  have mapped : (UnitMap.build (Topology.sample.vantage ⟨"Workload", "us-east-1"⟩
      (.fixed ownOrShared)) .sample).comesTo (fun _ => true) = true := by decide +kernel
  obtain ⟨m, s, run, -⟩ := Lookup.exists_of_comesTo mapped
  refine ⟨ds, described, separate.2.2 plain, m, s, run, ?_⟩
  rw [(separate.1 _ m {} s run).gateways, recorded]
  exact List.mem_singleton_self _

/-- Two gateways whose keys are the same, and a VPC that the owner of the one
attaches to the other. -/
def Topology.sampleCollision : Topology where
  settings := sample.settings
  accounts :=
    [{ name := "Prod_EU", id := "111111111111", organizationalUnit := none },
      { name := "EU", id := "222222222222", organizationalUnit := none }]
  network :=
    { gateways :=
        [{ name := "Core", account := "Prod_EU", region := "us-east-1", routeTables := [] },
          { name := "Core_Prod", account := "EU", region := "us-east-1", routeTables := [] }]
      vpcs :=
        [{ name := "App", region := "us-east-1", placement := .single "Prod_EU"
           cidrs := ["10.0.0.0/16"], ipamPool := none
           attachments := [{ name := "App-Core", gateway := ⟨"Core_Prod", "EU"⟩ }] }] }

/-- Validation lets a collision through. The attachment to the gateway of the
other account is then bound to the unit's own gateway. -/
theorem keys_collide :
    Topology.sampleCollision.validate = .ok () ∧
      ∃ ds, Topology.sampleCollision.attachments Topology.sampleCollision.registry
          ⟨"Prod_EU", "us-east-1"⟩ = .ok ds ∧
        ¬ KeysSeparate .sampleCollision ⟨"Prod_EU", "us-east-1"⟩ ds ∧
        ∃ m s, (UnitMap.build (Topology.sampleCollision.vantage ⟨"Prod_EU", "us-east-1"⟩
              (.fixed ownOrShared)) .sampleCollision).run {} = .ok m s ∧
          m.attachments.entries.map (fun e => (e.2.descriptor.gatewayAccount, e.2.gatewayId)) =
            [("EU", "own")] := by
  obtain ⟨ds, described, ours, theirs⟩ :
      ∃ ds, Topology.sampleCollision.attachments Topology.sampleCollision.registry
          ⟨"Prod_EU", "us-east-1"⟩ = .ok ds ∧
        ⟨"Core", "Prod_EU"⟩ ∈ recordedGateways .sampleCollision ⟨"Prod_EU", "us-east-1"⟩ ds ∧
        ⟨"Core_Prod", "EU"⟩ ∈ recordedGateways .sampleCollision ⟨"Prod_EU", "us-east-1"⟩ ds :=
    ⟨_, rfl, by decide +kernel, by decide +kernel⟩
  have bound : (UnitMap.build (Topology.sampleCollision.vantage ⟨"Prod_EU", "us-east-1"⟩
      (.fixed ownOrShared)) .sampleCollision).comesTo (fun m => decide
        (m.attachments.entries.map (fun e => (e.2.descriptor.gatewayAccount, e.2.gatewayId)) =
          [("EU", "own")])) = true := by decide +kernel
  obtain ⟨m, s, run, check⟩ := Lookup.exists_of_comesTo bound
  refine ⟨rfl, ds, described, fun separate => ?_, m, s, run, of_decide_eq_true check⟩
  have same := separate.gateways _ ours _ theirs rfl
  exact absurd same (by decide)

end Interlink
