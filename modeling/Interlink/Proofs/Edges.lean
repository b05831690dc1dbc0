import Interlink.Proofs.Stages
import Mathlib.Data.List.Forall2

/-!
# Every declared edge is planned by one unit

A declared edge is an attachment with a route table that it names. The unit that
owns the attachment creates the edge or leaves it to others, and no other unit
does either. `Settles` says this of a list of declared edges and the records that
come of them, one for one, so that an edge that is declared twice counts twice.

It is carried through the stages in the order in which they plan: one route table
of an attachment, all its route tables, all attachments of a unit
(`UnitMap.planAttachments_gathers`, for whatever batches taken together keep), and
at last any number of units.
-/

namespace Interlink

/-! ## Declared edges -/

/-- An attachment with a route table that it names. -/
structure DeclaredEdge where
  kind : EdgeKind
  attachment : Attachment
  table : String
deriving DecidableEq, Repr, Inhabited

/-- The key of an edge, the same for everybody. -/
def DeclaredEdge.key (d : DeclaredEdge) : String := Key.edge d.attachment.key d.table

/-- The edges of one sort that attachments declare. -/
def declaredEdges (kind : EdgeKind) (as : List Attachment) : List DeclaredEdge :=
  as.flatMap fun a => (a.tables kind).map fun table => ⟨kind, a, table⟩

theorem mem_declaredEdges {kind : EdgeKind} {as : List Attachment} {d : DeclaredEdge} :
    d ∈ declaredEdges kind as ↔
      d.kind = kind ∧ d.attachment ∈ as ∧ d.table ∈ d.attachment.tables kind := by
  simp only [declaredEdges, List.mem_flatMap, List.mem_map]
  constructor
  · rintro ⟨a, ha, table, htable, rfl⟩
    exact ⟨rfl, ha, htable⟩
  · rintro ⟨rfl, ha, htable⟩
    exact ⟨d.attachment, ha, d.table, htable, rfl⟩

theorem declaredEdges_append (kind : EdgeKind) (as bs : List Attachment) :
    declaredEdges kind (as ++ bs) = declaredEdges kind as ++ declaredEdges kind bs :=
  List.flatMap_append

theorem declaredEdges_perm {kind : EdgeKind} {as bs : List Attachment} (same : as.Perm bs) :
    (declaredEdges kind as).Perm (declaredEdges kind bs) :=
  same.flatMap_right _

/-- An edge creates a declared one, in the scope of the attachment's owner. -/
structure Edge.Creates (e : Edge) (d : DeclaredEdge) : Prop where
  kind : e.kind = d.kind
  key : e.key = d.key
  attachment : e.attachmentKey = d.attachment.key
  table : e.routeTable = d.table
  scope : e.scope = d.attachment.owner
  logicalId : e.logicalId = Key.logicalId d.attachment.name d.table
    (if d.attachment.templated then some d.attachment.owner.account else none) d.kind.label

/-- A skipped edge leaves a declared one to others. -/
structure SkippedEdge.Leaves (s : SkippedEdge) (d : DeclaredEdge) : Prop where
  kind : s.kind = d.kind
  key : s.key = d.key

/-- Edges that are created and edges that are skipped are together, one for one,
those that are declared. What is skipped is what somebody else creates. -/
def Settles (external : EdgeKeys) (declared : List DeclaredEdge) (edges : List Edge)
    (skipped : List SkippedEdge) : Prop :=
  ∃ created left : List DeclaredEdge, (created ++ left).Perm declared ∧
    (∀ d ∈ created, external.contains d.kind d.key = false) ∧
    (∀ d ∈ left, external.contains d.kind d.key = true) ∧
    List.Forall₂ Edge.Creates edges created ∧ List.Forall₂ SkippedEdge.Leaves skipped left

section Settles

variable {external : EdgeKeys} {declared declared' : List DeclaredEdge}
  {edges edges' : List Edge} {skipped skipped' : List SkippedEdge}

theorem settles_nil : Settles external [] [] [] :=
  ⟨[], [], .refl _, by simp, by simp, .nil, .nil⟩

theorem Settles.append (h : Settles external declared edges skipped)
    (h' : Settles external declared' edges' skipped') :
    Settles external (declared ++ declared') (edges ++ edges') (skipped ++ skipped') := by
  obtain ⟨created, left, all, ours, others, creates, leaves⟩ := h
  obtain ⟨created', left', all', ours', others', creates', leaves'⟩ := h'
  refine ⟨created ++ created', left ++ left', ?_, ?_, ?_, List.rel_append creates creates',
    List.rel_append leaves leaves'⟩
  · have swap : ((created ++ created') ++ (left ++ left')).Perm
        ((created ++ left) ++ (created' ++ left')) := by
      simp only [List.append_assoc]
      exact (List.perm_append_comm_assoc created' left left').append_left created
    exact swap.trans (all.append all')
  · exact fun d hd => (List.mem_append.mp hd).elim (ours d) (ours' d)
  · exact fun d hd => (List.mem_append.mp hd).elim (others d) (others' d)

theorem Settles.perm (h : Settles external declared edges skipped)
    (same : declared.Perm declared') : Settles external declared' edges skipped := by
  obtain ⟨created, left, all, rest⟩ := h
  exact ⟨created, left, all.trans same, rest⟩

theorem exists_of_forall₂ {α β : Type} {R : α → β → Prop} {as : List α} {bs : List β}
    (h : List.Forall₂ R as bs) {b : β} (hb : b ∈ bs) : ∃ a ∈ as, R a b := by
  induction h with
  | nil => exact nomatch hb
  | cons first _ ih =>
    rcases List.mem_cons.mp hb with rfl | hb
    · exact ⟨_, List.mem_cons_self, first⟩
    · obtain ⟨a, ha, related⟩ := ih hb
      exact ⟨a, List.mem_cons_of_mem _ ha, related⟩

/-- Every declared edge is created or skipped. -/
theorem Settles.covered (h : Settles external declared edges skipped) {d : DeclaredEdge}
    (hd : d ∈ declared) : (∃ e ∈ edges, e.Creates d) ∨ ∃ s ∈ skipped, s.Leaves d := by
  obtain ⟨created, left, all, -, -, creates, leaves⟩ := h
  rcases List.mem_append.mp (all.mem_iff.mpr hd) with hd | hd
  · exact .inl (exists_of_forall₂ creates hd)
  · exact .inr (exists_of_forall₂ leaves hd)

/-- Every edge that is created was declared. -/
theorem Settles.declared_of_edge (h : Settles external declared edges skipped) {e : Edge}
    (he : e ∈ edges) : ∃ d ∈ declared, e.Creates d := by
  obtain ⟨created, left, all, -, -, creates, -⟩ := h
  obtain ⟨d, hd, related⟩ := exists_of_forall₂ creates.flip he
  exact ⟨d, all.subset (List.mem_append_left _ hd), related⟩

/-- Every edge that is skipped was declared. -/
theorem Settles.declared_of_skipped (h : Settles external declared edges skipped)
    {s : SkippedEdge} (hs : s ∈ skipped) : ∃ d ∈ declared, s.Leaves d := by
  obtain ⟨created, left, all, -, -, -, leaves⟩ := h
  obtain ⟨d, hd, related⟩ := exists_of_forall₂ leaves.flip hs
  exact ⟨d, all.subset (List.mem_append_right _ hd), related⟩

end Settles

/-! ## The edges of a unit -/

namespace UnitMap

variable {m : UnitMap} {external : EdgeKeys} {kind : EdgeKind} {key : String}
  {a : ResolvedAttachment} {batch : EdgeBatch} {noted noted' : EdgeKeys}

theorem tables_subset (a : Attachment) (kind : EdgeKind) :
    a.tables kind ⊆ a.associations ++ a.propagations := by
  cases kind with
  | association => exact List.subset_append_left ..
  | propagation => exact List.subset_append_right ..

/-- An edge is made of an attachment of the map and a route table of its gateway. -/
theorem edge_ok {table : String} {e : Edge} (h : m.edge kind key table = .ok e) :
    ∃ a id, m.attachments.get? key = some a ∧
      m.routeTableId? a.descriptor.region a.descriptor.gateway table = some id ∧
      e =
        { kind
          key := Key.edge key table
          logicalId := Key.logicalId a.descriptor.name table
            (if a.descriptor.templated then some a.descriptor.owner.account else none) kind.label
          attachmentKey := key
          attachmentId := a.id
          routeTable := table
          routeTableId := id
          scope := m.scope } := by
  unfold edge at h
  cases found : m.attachments.get? key with
  | none => simp [found] at h
  | some a =>
    cases tableId : m.routeTableId? a.descriptor.region a.descriptor.gateway table with
    | none => simp [found, tableId] at h
    | some id =>
      simp only [found, tableId, Except.ok.injEq] at h
      exact ⟨a, id, rfl, tableId, h.symm⟩

theorem edge_creates {table : String} {e : Edge} (own : (key, a) ∈ m.owned)
    (keyed : a.descriptor.key = key) (h : m.edge kind key table = .ok e) :
    e.Creates ⟨kind, a.descriptor, table⟩ := by
  obtain ⟨there, owner⟩ := List.mem_filter.mp own
  obtain ⟨a', id, found, -, rfl⟩ := edge_ok h
  obtain rfl : a' = a := Option.some.inj (found.symm.trans (SortedMap.mem_entries.mp there))
  exact ⟨rfl, by rw [DeclaredEdge.key, keyed], keyed.symm, rfl, (beq_iff_eq.mp owner).symm, rfl⟩

/-- One edge: it is left to somebody else, or it is made, and its key is noted, which it was
not before. -/
theorem planEdge_cases {table : String}
    (run : (m.planEdge external kind key table).run noted = .ok batch noted') :
    (external.contains kind (Key.edge key table) = true ∧
        batch = { skipped := [⟨kind, Key.edge key table⟩] } ∧ noted' = noted) ∨
      (external.contains kind (Key.edge key table) = false ∧
        noted.contains kind (Key.edge key table) = false ∧
        noted' = noted.add kind (Key.edge key table) ∧
        ∃ e, m.edge kind key table = .ok e ∧ batch = { edges := [e] }) := by
  unfold planEdge at run
  cases left : external.contains kind (Key.edge key table) with
  | true =>
    simp only [left, if_true] at run
    obtain ⟨rfl, rfl⟩ := run_pure_ok.mp run
    exact .inl ⟨rfl, rfl, rfl⟩
  | false =>
    simp only [left, Bool.false_eq_true, if_false] at run
    obtain ⟨requested, s₁, got, run⟩ := run_bind_ok.mp run
    cases got
    split at run
    · obtain ⟨_, s₂, refused, -⟩ := run_bind_ok.mp run
      exact nomatch refused
    · next new =>
      obtain ⟨_, s₂, added, run⟩ := run_bind_ok.mp run
      cases added
      cases made : m.edge kind key table with
      | error e =>
        rw [made] at run
        exact nomatch run
      | ok e =>
        rw [made] at run
        obtain ⟨rfl, rfl⟩ := run_pure_ok.mp run
        exact .inr ⟨rfl, Bool.eq_false_iff.mpr new, rfl, e, rfl, rfl⟩

/-- One edge: it is left to somebody else or made. -/
theorem planEdge_ok {table : String}
    (run : (m.planEdge external kind key table).run noted = .ok batch noted') :
    (external.contains kind (Key.edge key table) = true ∧
        batch = { skipped := [⟨kind, Key.edge key table⟩] }) ∨
      (external.contains kind (Key.edge key table) = false ∧
        ∃ e, m.edge kind key table = .ok e ∧ batch = { edges := [e] }) := by
  rcases planEdge_cases run with ⟨left, skipped, -⟩ | ⟨ours, -, -, made⟩
  · exact .inl ⟨left, skipped⟩
  · exact .inr ⟨ours, made⟩

/-- One edge: it is skipped if somebody else creates it, and created if not. -/
theorem planEdge_settles {table : String} (own : (key, a) ∈ m.owned)
    (keyed : a.descriptor.key = key)
    (run : (m.planEdge external kind key table).run noted = .ok batch noted') :
    Settles external [⟨kind, a.descriptor, table⟩] batch.edges batch.skipped := by
  have same : DeclaredEdge.key ⟨kind, a.descriptor, table⟩ = Key.edge key table := by
    rw [DeclaredEdge.key, keyed]
  rcases planEdge_ok run with ⟨left, rfl⟩ | ⟨ours, e, made, rfl⟩
  · refine ⟨[], [⟨kind, a.descriptor, table⟩], .refl _, by simp, ?_, .nil, ?_⟩
    · simpa [same] using left
    · exact .cons ⟨rfl, same.symm⟩ .nil
  · refine ⟨[⟨kind, a.descriptor, table⟩], [], .refl _, ?_, by simp, ?_, .nil⟩
    · simpa [same] using ours
    · exact .cons (edge_creates own keyed made) .nil

section Gathered

variable {P : List DeclaredEdge → EdgeKeys → EdgeBatch → EdgeKeys → Prop}
  (nothing : ∀ noted, P [] noted {} noted)
  (append : ∀ {ds ds' batch batch' noted noted' noted''}, P ds noted batch noted' →
    P ds' noted' batch' noted'' → P (ds ++ ds') noted (batch ++ batch') noted'')
include nothing append

/-- What holds of single edges, and of batches together if it holds of both, holds of the edges of
one attachment. -/
theorem planEdges_gathers : ∀ {tables : List String} {batch : EdgeBatch} {noted noted' : EdgeKeys},
    (∀ table ∈ tables, ∀ {batch noted noted'},
      (m.planEdge external kind key table).run noted = .ok batch noted' →
        P [⟨kind, a.descriptor, table⟩] noted batch noted') →
    (m.planEdges external kind key tables).run noted = .ok batch noted' →
    P (tables.map fun table => ⟨kind, a.descriptor, table⟩) noted batch noted'
  | [], _, _, _, _, run => by
    obtain ⟨rfl, rfl⟩ := run_pure_ok.mp run
    exact nothing _
  | table :: rest, _, _, _, single, run => by
    obtain ⟨first, s₁, one, run⟩ := run_bind_ok.mp run
    obtain ⟨others, s₂, more, last⟩ := run_bind_ok.mp run
    obtain ⟨rfl, rfl⟩ := run_pure_ok.mp last
    exact append (single table List.mem_cons_self one)
      (planEdges_gathers (fun table h => single table (List.mem_cons_of_mem _ h)) more)

/-- It holds of the edges of any attachments. -/
theorem planAttachments_gathers :
    ∀ {entries : List (String × ResolvedAttachment)} {batch : EdgeBatch} {noted noted' : EdgeKeys},
      (∀ x ∈ entries, ∀ table ∈ x.2.descriptor.tables kind, ∀ {batch noted noted'},
        (m.planEdge external kind x.1 table).run noted = .ok batch noted' →
          P [⟨kind, x.2.descriptor, table⟩] noted batch noted') →
      (m.planAttachments external kind entries).run noted = .ok batch noted' →
      P (declaredEdges kind (entries.map (·.2.descriptor))) noted batch noted'
  | [], _, _, _, _, run => by
    obtain ⟨rfl, rfl⟩ := run_pure_ok.mp run
    exact nothing _
  | (key, a) :: rest, _, _, _, single, run => by
    obtain ⟨first, s₁, one, run⟩ := run_bind_ok.mp run
    obtain ⟨others, s₂, more, last⟩ := run_bind_ok.mp run
    obtain ⟨rfl, rfl⟩ := run_pure_ok.mp last
    exact append (planEdges_gathers nothing append (single _ List.mem_cons_self) one)
      (planAttachments_gathers (fun x h => single x (List.mem_cons_of_mem _ h)) more)

end Gathered

theorem planGraph_ok {graph : EdgeGraph}
    (run : (m.planGraph external).run noted = .ok graph noted') :
    ∃ between,
      (m.planAttachments external .association m.owned).run noted =
        .ok graph.associations between ∧
      (m.planAttachments external .propagation m.owned).run between =
        .ok graph.propagations noted' := by
  obtain ⟨associations, s₁, one, run⟩ := run_bind_ok.mp run
  obtain ⟨propagations, s₂, other, last⟩ := run_bind_ok.mp run
  obtain ⟨rfl, rfl⟩ := run_pure_ok.mp last
  exact ⟨s₁, one, other⟩

theorem planAttachments_settles (keyed : ∀ e ∈ m.owned, e.2.descriptor.key = e.1)
    (run : (m.planAttachments external kind m.owned).run noted = .ok batch noted') :
    Settles external (declaredEdges kind (m.owned.map (·.2.descriptor))) batch.edges
      batch.skipped := by
  refine planAttachments_gathers
    (P := fun ds _ batch _ => Settles external ds batch.edges batch.skipped)
    (fun _ => settles_nil) (fun first others => first.append others) ?_ run
  intro x hx table _ _ _ _ one
  exact planEdge_settles hx (keyed x hx) one

/-- Attachments in a map stand under their own keys. -/
theorem Holds.keyed {scope : Scope} {gateways : List String} {tables : List (String × String)}
    {as : List Attachment} (h : m.Holds scope gateways tables as) :
    ∀ e ∈ m.owned, e.2.descriptor.key = e.1 := by
  intro e he
  exact h.key_of_found (SortedMap.mem_entries.mp (List.mem_filter.mp he).1)

/-- Whatever a unit owns concerns it. -/
theorem filter_concerns {scope : Scope} {ds : List Attachment}
    (region : ∀ d ∈ ds, d.owner.region = d.region) :
    (ds.filter (concerns scope)).filter (·.owner == scope) = ds.filter (·.owner == scope) := by
  rw [List.filter_filter]
  refine List.filter_congr fun d hd => ?_
  by_cases owner : d.owner = scope
  · have : d.region = scope.region := by rw [← owner, region d hd]
    simp [concerns, owner, this]
  · simp [owner]

/-- The attachments that a unit owns are, with repetitions, those that are
described with it as their owner. -/
theorem Holds.owned {scope : Scope} {gateways : List String} {tables : List (String × String)}
    {ds : List Attachment} (h : m.Holds scope gateways tables (ds.filter (concerns scope)))
    (region : ∀ d ∈ ds, d.owner.region = d.region) :
    (m.owned.map (·.2.descriptor)).Perm (ds.filter (·.owner == scope)) := by
  have owned : m.owned.map (·.2.descriptor) =
      (m.described.map (·.2)).filter (·.owner == scope) := by
    rw [← h.scope]
    simp only [UnitMap.owned, described, List.map_map, List.filter_map, Function.comp_def]
  have all := (h.attachments.map (·.2)).filter (·.owner == scope)
  simp only [List.map_map, Function.comp_def, List.map_id'] at all
  rw [owned, ← filter_concerns region]
  exact all

end UnitMap

/-! ## The plan of a unit -/

namespace Plan

/-- The edges of one sort that a plan creates. -/
def edges (p : Plan) : EdgeKind → List Edge
  | .association => p.associations
  | .propagation => p.propagations

/-- The edges of one sort that a plan skips. -/
def skipped (p : Plan) (kind : EdgeKind) : List SkippedEdge :=
  p.skippedEdges.filter (·.kind == kind)

/-- A plan takes care of a declared edge: it creates it or, where the unit owns
the attachment, leaves it to others. -/
def Handles (p : Plan) (d : DeclaredEdge) : Prop :=
  (∃ e ∈ p.edges d.kind, e.Creates d) ∨
    (p.metadata.scope = d.attachment.owner ∧ ∃ s ∈ p.skipped d.kind, s.Leaves d)

theorem filter_skipped {external : EdgeKeys} {kind kind' : EdgeKind} {as : List Attachment}
    {edges : List Edge} {skipped : List SkippedEdge}
    (h : Settles external (declaredEdges kind as) edges skipped) :
    skipped.filter (·.kind == kind') = if kind = kind' then skipped else [] := by
  have kinds : ∀ s ∈ skipped, s.kind = kind := by
    intro s hs
    obtain ⟨d, hd, leaves⟩ := h.declared_of_skipped hs
    rw [leaves.kind, (mem_declaredEdges.mp hd).1]
  split
  · next same => exact List.filter_eq_self.mpr fun s hs => beq_iff_eq.mpr ((kinds s hs).trans same)
  · next other =>
    exact List.filter_eq_nil_iff.mpr fun s hs => by
      rw [kinds s hs, beq_iff_eq]
      exact other

/-- The edges of a unit are planned one sort after the other. -/
theorem edgesOf_ok {m : UnitMap} {t : Topology} {graph : EdgeGraph}
    (planned : edgesOf m t = .ok graph) :
    ∃ between noted,
      (m.planAttachments (.ofExternal t.network.external) .association m.owned).run {} =
        .ok graph.associations between ∧
      (m.planAttachments (.ofExternal t.network.external) .propagation m.owned).run between =
        .ok graph.propagations noted := by
  unfold edgesOf at planned
  cases run : (m.planGraph (.ofExternal t.network.external)).run {} with
  | error e noted => simp [run] at planned
  | ok found noted =>
    simp only [run, Except.ok.injEq] at planned
    obtain rfl := planned
    obtain ⟨between, one, other⟩ := UnitMap.planGraph_ok run
    exact ⟨between, noted, one, other⟩

/-- The edges of a plan settle what the attachments of its unit declare. -/
theorem settles_of_build {v : Vantage} {t : Topology} (faultless : t.Faultless) {s s' : Run}
    {p : Plan} (run : (build v t).run s = .ok p s') :
    p.metadata.scope = v.caller ∧ ∃ ds, t.attachments v.accounts v.caller = .ok ds ∧
      ∀ kind, Settles (.ofExternal t.network.external)
        (declaredEdges kind (ds.filter (·.owner == v.caller))) (p.edges kind)
        (p.skipped kind) := by
  obtain ⟨m, s₁, edges, routes, peering, s₂, rules, mapped, planned, -, -, -, rfl⟩ := build_ok run
  obtain ⟨ds, described, held⟩ := UnitMap.build_holds mapped
  refine ⟨rfl, ds, described, ?_⟩
  have owned := held.owned fun d hd => (faultless.grounded described hd).region
  obtain ⟨between, noted, one, other⟩ := edgesOf_ok planned
  have associations := UnitMap.planAttachments_settles held.keyed one
  have propagations := UnitMap.planAttachments_settles held.keyed other
  have skips (kind : EdgeKind) :
      (assemble ⟨v.caller, v.pathPrefix, s'.stats⟩ m edges routes peering rules).skipped kind =
        (if EdgeKind.association = kind then edges.associations.skipped else []) ++
          if EdgeKind.propagation = kind then edges.propagations.skipped else [] := by
    show (edges.associations.skipped ++ edges.propagations.skipped).filter _ = _
    rw [List.filter_append, filter_skipped associations, filter_skipped propagations]
  intro kind
  rw [skips]
  cases kind with
  | association =>
    simp only [if_true, reduceCtorEq, if_false, List.append_nil]
    exact associations.perm (declaredEdges_perm owned)
  | propagation =>
    simp only [if_true, reduceCtorEq, if_false, List.nil_append]
    exact propagations.perm (declaredEdges_perm owned)

end Plan

/-! ## All units -/

/-- The attachments of some owners are those of each owner in turn. -/
theorem perm_owners (ds : List Attachment) :
    ∀ {scopes : List Scope}, scopes.Nodup →
      (scopes.flatMap fun s => ds.filter (·.owner == s)).Perm (ds.filter (·.owner ∈ scopes))
  | [], _ => by simp
  | s :: rest, distinct => by
    obtain ⟨new, distinct⟩ := List.nodup_cons.mp distinct
    have first : (ds.filter (·.owner ∈ s :: rest)).filter (·.owner == s) =
        ds.filter (·.owner == s) := by
      rw [List.filter_filter]
      refine List.filter_congr fun d _ => ?_
      by_cases owner : d.owner = s <;> simp [owner]
    have others : (ds.filter (·.owner ∈ s :: rest)).filter (!·.owner == s) =
        ds.filter (·.owner ∈ rest) := by
      rw [List.filter_filter]
      refine List.filter_congr fun d _ => ?_
      by_cases owner : d.owner = s
      · simp [owner, new]
      · simp [owner]
    have split := List.filter_append_perm (·.owner == s) (ds.filter (·.owner ∈ s :: rest))
    rw [first, others] at split
    exact ((perm_owners ds distinct).append_left _).trans split

/-- A unit of a topology, and the plan that came of it. -/
structure PlannedUnit (t : Topology) where
  scope : Scope
  backend : Backend
  plan : Plan
  run : Run
  planned : t.plan scope backend = .ok plan run

theorem exists_plannedUnit {t : Topology} {scope : Scope} {backend : Backend}
    (h : Lookup.comesTo (Plan.build (t.vantage scope backend) t) (fun _ => true) = true) :
    ∃ u : PlannedUnit t, u.scope = scope ∧ u.backend = backend := by
  obtain ⟨p, run, planned, -⟩ := Lookup.exists_of_comesTo h
  exact ⟨⟨scope, backend, p, run, planned⟩, rfl, rfl⟩

namespace PlannedUnit

variable {t : Topology} {units : List (PlannedUnit t)} {viewer : Scope} {ds : List Attachment}

theorem settles (valid : t.validate = .ok ()) (u : PlannedUnit t) :
    u.plan.metadata.scope = u.scope ∧ ∃ ds, t.attachments t.registry u.scope = .ok ds ∧
      ∀ kind, Settles (.ofExternal t.network.external)
        (declaredEdges kind (ds.filter (·.owner == u.scope))) (u.plan.edges kind)
        (u.plan.skipped kind) :=
  Plan.settles_of_build (Topology.faultless_of_validate valid) u.planned

/-- The attachments are the same for every unit, whoever looks at them. -/
theorem settles_described (valid : t.validate = .ok ())
    (described : t.attachments t.registry viewer = .ok ds) (u : PlannedUnit t) (kind : EdgeKind) :
    Settles (.ofExternal t.network.external)
      (declaredEdges kind (ds.filter (·.owner == u.scope))) (u.plan.edges kind)
      (u.plan.skipped kind) := by
  obtain ⟨-, ds', described', settles⟩ := u.settles valid
  have same : ds' = ds := Except.ok.inj
    (described'.symm.trans (Topology.attachments_eq_ok described u.scope))
  exact same ▸ settles kind

/-- What some units plan together settles what their attachments declare. -/
theorem all_settle (valid : t.validate = .ok ())
    (described : t.attachments t.registry viewer = .ok ds) (kind : EdgeKind)
    (distinct : (units.map (·.scope)).Nodup) :
    Settles (.ofExternal t.network.external)
      (declaredEdges kind (ds.filter (·.owner ∈ units.map (·.scope))))
      (units.flatMap (·.plan.edges kind)) (units.flatMap (·.plan.skipped kind)) := by
  have each : ∀ units : List (PlannedUnit t), Settles (.ofExternal t.network.external)
      (declaredEdges kind (units.flatMap fun u => ds.filter (·.owner == u.scope)))
      (units.flatMap (·.plan.edges kind)) (units.flatMap (·.plan.skipped kind)) := by
    intro units
    induction units with
    | nil => exact settles_nil
    | cons u rest ih =>
      simp only [List.flatMap_cons, declaredEdges_append]
      exact (settles_described valid described u kind).append ih
  have owners := perm_owners ds distinct
  rw [List.flatMap_map] at owners
  exact (each units).perm (declaredEdges_perm owners)

theorem handles_iff (valid : t.validate = .ok ())
    (described : t.attachments t.registry viewer = .ok ds) (u : PlannedUnit t) {kind : EdgeKind}
    {d : DeclaredEdge} (hd : d ∈ declaredEdges kind ds) :
    u.plan.Handles d ↔ u.scope = d.attachment.owner := by
  have settles := settles_described valid described u
  have scope := (u.settles valid).1
  constructor
  · rintro (⟨e, he, creates⟩ | ⟨own, -⟩)
    · obtain ⟨d', hd', creates'⟩ := (settles d.kind).declared_of_edge he
      have owner := (List.mem_filter.mp (mem_declaredEdges.mp hd').2.1).2
      rw [← creates.scope, creates'.scope, beq_iff_eq.mp owner]
    · exact scope.symm.trans own
  · intro own
    obtain ⟨rfl, there, table⟩ := mem_declaredEdges.mp hd
    have mine : d ∈ declaredEdges d.kind (ds.filter (·.owner == u.scope)) :=
      mem_declaredEdges.mpr
        ⟨rfl, List.mem_filter.mpr ⟨there, beq_iff_eq.mpr own.symm⟩, table⟩
    exact ((settles d.kind).covered mine).imp_right fun skipped => ⟨scope.trans own, skipped⟩

end PlannedUnit

/-- In a valid topology every unit that is planned settles, one for one and with
repetitions, the edges that its own attachments declare. So units of different
scopes together settle the edges of all their attachments: each of these is taken
care of by one unit only, and an edge with another owner by none. -/
theorem declared_edges_planned_once {t : Topology} (valid : t.validate = .ok ()) :
    (∀ u : PlannedUnit t, ∃ ds, t.attachments t.registry u.scope = .ok ds ∧
      ∀ kind, Settles (.ofExternal t.network.external)
        (declaredEdges kind (ds.filter (·.owner == u.scope))) (u.plan.edges kind)
        (u.plan.skipped kind)) ∧
    ∀ units : List (PlannedUnit t), (units.map (·.scope)).Nodup →
      ∀ viewer ds, t.attachments t.registry viewer = .ok ds → ∀ kind,
        Settles (.ofExternal t.network.external)
          (declaredEdges kind (ds.filter (·.owner ∈ units.map (·.scope))))
          (units.flatMap (·.plan.edges kind)) (units.flatMap (·.plan.skipped kind)) ∧
        ∀ d ∈ declaredEdges kind ds,
          (d.attachment.owner ∈ units.map (·.scope) → ∃! u, u ∈ units ∧ u.plan.Handles d) ∧
          (d.attachment.owner ∉ units.map (·.scope) → ∀ u ∈ units, ¬ u.plan.Handles d) := by
  refine ⟨fun u => (u.settles valid).2, ?_⟩
  intro units distinct viewer ds described kind
  refine ⟨PlannedUnit.all_settle valid described kind distinct, fun d hd => ⟨?_, ?_⟩⟩
  · intro owner
    obtain ⟨u, hu, same⟩ := List.mem_map.mp owner
    refine ⟨u, ⟨hu, (PlannedUnit.handles_iff valid described u hd).mpr same⟩, ?_⟩
    rintro u' ⟨hu', handles⟩
    have same' := (PlannedUnit.handles_iff valid described u' hd).mp handles
    exact List.inj_on_of_nodup_map distinct hu' hu (same'.trans same.symm)
  · intro other u hu handles
    have same := (PlannedUnit.handles_iff valid described u hd).mp handles
    exact other (List.mem_map.mpr ⟨u, hu, same⟩)

/-- The VPC in the sample is taken care of by its owner and not by the owner of
the gateway. -/
theorem declared_edges_planned_once_sample :
    ∃ hub app : PlannedUnit .sample, hub.scope = ⟨"Network", "us-east-1"⟩ ∧
      app.scope = ⟨"Workload", "us-east-1"⟩ ∧
      ∃ ds d, Topology.sample.attachments Topology.sample.registry hub.scope = .ok ds ∧
        d ∈ declaredEdges .association ds ∧
        (∃! u, u ∈ [hub, app] ∧ u.plan.Handles d) ∧ ∀ u ∈ [hub], ¬ u.plan.Handles d := by
  obtain ⟨hub, hubScope, -⟩ : ∃ u : PlannedUnit .sample, u.scope = ⟨"Network", "us-east-1"⟩ ∧
      u.backend = .fixed fun _ => .value "id" := exists_plannedUnit (by decide +kernel)
  obtain ⟨app, appScope, -⟩ : ∃ u : PlannedUnit .sample, u.scope = ⟨"Workload", "us-east-1"⟩ ∧
      u.backend = .fixed fun _ => .value "id" := exists_plannedUnit (by decide +kernel)
  have ⟨a, described, owner, tables⟩ : ∃ a : Attachment,
      Topology.sample.attachments Topology.sample.registry ⟨"Network", "us-east-1"⟩ = .ok [a] ∧
        a.owner = ⟨"Workload", "us-east-1"⟩ ∧ a.associations = ["spokes"] := ⟨_, rfl, rfl, rfl⟩
  have declared : (⟨.association, a, "spokes"⟩ : DeclaredEdge) ∈ declaredEdges .association [a] :=
    mem_declaredEdges.mpr ⟨rfl, List.mem_singleton_self _, by simp [Attachment.tables, tables]⟩
  rw [← hubScope] at described
  refine ⟨hub, app, hubScope, appScope, [a], _, described, declared, ?_, ?_⟩
  · have both := (declared_edges_planned_once Topology.sample_valid).2 [hub, app]
      (by simp [hubScope, appScope]) hub.scope [a] described .association
    exact (both.2 _ declared).1 (by simp [owner, appScope])
  · have alone := (declared_edges_planned_once Topology.sample_valid).2 [hub]
      (List.nodup_singleton _) hub.scope [a] described .association
    exact (alone.2 _ declared).2 (by simp [owner, hubScope])

end Interlink
