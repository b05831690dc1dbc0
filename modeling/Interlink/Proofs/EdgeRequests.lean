import Interlink.Proofs.CededEdges

/-!
# What is asked for, and what comes of it

The planning of edges walks through attachments and their route tables, but a
request is no more than the key of an attachment with the name of a route table.
Seen as a list of requests (`UnitMap.planRequests`), the planning of one
attachment and that of all attachments of a unit are one walk.

One request comes to one of four things (`UnitMap.planEdge_run`). A walk succeeds
if and only if the requests that are not left to others are new, differ from each
other and can be drawn from the map; it then has a record for each of these, and
one for each request that is left to others, as often as it is made
(`UnitMap.planRequests_ok_iff`). The two sorts of edges are planned with one set of
noted keys, but the keys of one sort are never looked for among those of the
other, so that either sort is planned as if it were alone (`edges_planned_iff`).
-/

namespace Interlink

/-! ## Requests -/

/-- A request for an edge: the key of an attachment, and a route table. -/
structure EdgeRequest where
  attachment : String
  table : String
deriving DecidableEq, Repr, Inhabited

namespace EdgeRequest

/-- The key of the edge. -/
def key (r : EdgeRequest) : String := Key.edge r.attachment r.table

/-- The record of the edge if it is left to others. -/
def skip (kind : EdgeKind) (r : EdgeRequest) : SkippedEdge := ⟨kind, r.key⟩

end EdgeRequest

namespace EdgeKeys

/-- The requests that are left to others. -/
def ceded (external : EdgeKeys) (kind : EdgeKind) (rs : List EdgeRequest) : List EdgeRequest :=
  rs.filter fun r => external.contains kind r.key

/-- The requests that are not left to others. -/
def kept (external : EdgeKeys) (kind : EdgeKind) (rs : List EdgeRequest) : List EdgeRequest :=
  rs.filter fun r => !external.contains kind r.key

/-- The keys with those of some requests. -/
def noteAll (noted : EdgeKeys) (kind : EdgeKind) (rs : List EdgeRequest) : EdgeKeys :=
  rs.foldl (fun noted r => noted.add kind r.key) noted

variable {external noted : EdgeKeys} {kind kind' : EdgeKind} {r : EdgeRequest}
  {rs : List EdgeRequest} {key : String}

theorem ceded_cons_of_left (left : external.contains kind r.key = true) :
    external.ceded kind (r :: rs) = r :: external.ceded kind rs :=
  List.filter_cons_of_pos left

theorem ceded_cons_of_ours (ours : external.contains kind r.key = false) :
    external.ceded kind (r :: rs) = external.ceded kind rs :=
  List.filter_cons_of_neg (by simp [ours])

theorem kept_cons_of_left (left : external.contains kind r.key = true) :
    external.kept kind (r :: rs) = external.kept kind rs :=
  List.filter_cons_of_neg (by simp [left])

theorem kept_cons_of_ours (ours : external.contains kind r.key = false) :
    external.kept kind (r :: rs) = r :: external.kept kind rs :=
  List.filter_cons_of_pos (by simp [ours])

theorem mem_kept : r ∈ external.kept kind rs ↔ r ∈ rs ∧ external.contains kind r.key = false := by
  simp [kept]

theorem contains_noteAll :
    (noted.noteAll kind rs).contains kind' key ↔
      (kind' = kind ∧ key ∈ rs.map (·.key)) ∨ noted.contains kind' key := by
  unfold noteAll
  induction rs generalizing noted with
  | nil => simp
  | cons r rest ih =>
    rw [List.foldl_cons, ih, contains_add, List.map_cons, List.mem_cons]
    tauto

end EdgeKeys

theorem EdgeBatch.append_assoc (a b c : EdgeBatch) : a ++ b ++ c = a ++ (b ++ c) := by
  show (⟨_, _⟩ : EdgeBatch) = ⟨_, _⟩
  rw [EdgeBatch.mk.injEq]
  exact ⟨List.append_assoc .., List.append_assoc ..⟩

namespace UnitMap

variable {m : UnitMap} {external noted noted' : EdgeKeys} {kind : EdgeKind} {r : EdgeRequest}
  {rs : List EdgeRequest} {batch : EdgeBatch}

/-! ## One request -/

/-- What comes of a request: it is left to others; its key is noted already; the edge is made; or
it cannot be made. The key is noted in the last two cases. -/
theorem planEdge_run (m : UnitMap) (external noted : EdgeKeys) (kind : EdgeKind)
    (r : EdgeRequest) :
    (m.planEdge external kind r.attachment r.table).run noted =
      if external.contains kind r.key then .ok { skipped := [r.skip kind] } noted
      else if noted.contains kind r.key then .error (.repeatedEdge r.key m.scope) noted
      else
        match m.edge kind r.attachment r.table with
        | .ok e => .ok { edges := [e] } (noted.add kind r.key)
        | .error e => .error e (noted.add kind r.key) := by
  by_cases left : external.contains kind r.key
  · rw [if_pos left]
    exact planEdge_skips noted left
  · rw [if_neg left]
    have ours : external.contains kind (Key.edge r.attachment r.table) = false :=
      Bool.eq_false_iff.mpr left
    by_cases known : noted.contains kind r.key
    · rw [if_pos known]
      have old : noted.contains kind (Key.edge r.attachment r.table) = true := known
      simp only [planEdge, ours, Bool.false_eq_true, if_false]
      refine run_bind_error.mpr (.inr ⟨noted, noted, rfl, ?_⟩)
      simp only [old, if_true]
      rfl
    · rw [if_neg known]
      have new : noted.contains kind (Key.edge r.attachment r.table) = false :=
        Bool.eq_false_iff.mpr known
      cases made : m.edge kind r.attachment r.table with
      | ok e => exact planEdge_creates ours new made
      | error e =>
        simp only [planEdge, ours, Bool.false_eq_true, if_false]
        refine run_bind_error.mpr (.inr ⟨noted, noted, rfl, ?_⟩)
        simp only [new, Bool.false_eq_true, if_false, made]
        rfl

/-! ## Requests in a row -/

/-- Plan the edges of some requests. -/
def planRequests (m : UnitMap) (external : EdgeKeys) (kind : EdgeKind) :
    List EdgeRequest → EdgePlanning EdgeBatch
  | [] => pure {}
  | r :: rest => do
    let first ← m.planEdge external kind r.attachment r.table
    let others ← m.planRequests external kind rest
    pure (first ++ others)

/-- The requests for the edges of a sort of some attachments. -/
def requestsOf (kind : EdgeKind) (entries : List (String × ResolvedAttachment)) :
    List EdgeRequest :=
  entries.flatMap fun x => (x.2.descriptor.tables kind).map (⟨x.1, ·⟩)

theorem planEdges_eq_planRequests (m : UnitMap) (external : EdgeKeys) (kind : EdgeKind)
    (attachment : String) : ∀ tables,
      m.planEdges external kind attachment tables =
        m.planRequests external kind (tables.map (⟨attachment, ·⟩))
  | [] => rfl
  | table :: rest => by
    rw [planEdges, List.map_cons, planRequests, planEdges_eq_planRequests]

theorem planRequests_append (m : UnitMap) (external : EdgeKeys) (kind : EdgeKind)
    (rs' : List EdgeRequest) : ∀ rs,
      m.planRequests external kind (rs ++ rs') = (do
        let first ← m.planRequests external kind rs
        let others ← m.planRequests external kind rs'
        pure (first ++ others))
  | [] => by
    rw [List.nil_append, planRequests, pure_bind]
    exact (bind_pure (m.planRequests external kind rs')).symm
  | r :: rest => by
    rw [List.cons_append, planRequests, planRequests, planRequests_append m external kind rs' rest]
    simp only [bind_assoc, pure_bind, EdgeBatch.append_assoc]

theorem planAttachments_eq_planRequests (m : UnitMap) (external : EdgeKeys) (kind : EdgeKind) :
    ∀ entries, m.planAttachments external kind entries =
      m.planRequests external kind (requestsOf kind entries)
  | [] => rfl
  | (key, a) :: rest => by
    rw [planAttachments, planEdges_eq_planRequests,
      planAttachments_eq_planRequests m external kind rest]
    exact (planRequests_append ..).symm

/-! ## What requests come to -/

/-- The requests that are not left to others have been made: they were new and differ from each
other, and the edges are theirs. -/
structure Makes (m : UnitMap) (external noted : EdgeKeys) (kind : EdgeKind)
    (rs : List EdgeRequest) (edges : List Edge) : Prop where
  new : ∀ r ∈ external.kept kind rs, noted.contains kind r.key = false
  distinct : ((external.kept kind rs).map (·.key)).Nodup
  made : List.Forall₂ (fun r e => m.edge kind r.attachment r.table = .ok e)
    (external.kept kind rs) edges

theorem makes_nil {edges : List Edge} : m.Makes external noted kind [] edges ↔ edges = [] := by
  constructor
  · intro h
    exact List.forall₂_nil_left_iff.mp h.made
  · rintro rfl
    exact ⟨by simp [EdgeKeys.kept], List.nodup_nil, .nil⟩

theorem makes_cons_of_left {edges : List Edge} (left : external.contains kind r.key = true) :
    m.Makes external noted kind (r :: rs) edges ↔ m.Makes external noted kind rs edges := by
  have same : external.kept kind (r :: rs) = external.kept kind rs :=
    EdgeKeys.kept_cons_of_left left
  exact ⟨fun ⟨new, distinct, made⟩ => ⟨same ▸ new, same ▸ distinct, same ▸ made⟩,
    fun ⟨new, distinct, made⟩ => ⟨same ▸ new, same ▸ distinct, same ▸ made⟩⟩

theorem makes_cons_of_ours {edges : List Edge} (ours : external.contains kind r.key = false) :
    m.Makes external noted kind (r :: rs) edges ↔
      noted.contains kind r.key = false ∧ ∃ e others,
        m.edge kind r.attachment r.table = .ok e ∧ edges = e :: others ∧
          m.Makes external (noted.add kind r.key) kind rs others := by
  -- A key is new once another is noted if it was new and is not that other one.
  have newer (r' : EdgeRequest) : (noted.add kind r.key).contains kind r'.key = false ↔
      r'.key ≠ r.key ∧ noted.contains kind r'.key = false := by
    simp only [← Bool.not_eq_true, EdgeKeys.contains_add, true_and, not_or, ne_eq]
  constructor
  · rintro ⟨new, distinct, made⟩
    rw [EdgeKeys.kept_cons_of_ours ours] at new distinct made
    obtain ⟨fresh, distinct⟩ := List.nodup_cons.mp distinct
    obtain ⟨e, others, first, rest, rfl⟩ := List.forall₂_cons_left_iff.mp made
    refine ⟨new r List.mem_cons_self, e, others, first, rfl, ?_, distinct, rest⟩
    intro r' hr'
    refine (newer r').mpr ⟨?_, new r' (List.mem_cons_of_mem _ hr')⟩
    intro same
    exact fresh (List.mem_map.mpr ⟨r', hr', same⟩)
  · rintro ⟨fresh, e, others, first, rfl, new, distinct, made⟩
    refine ⟨?_, ?_, ?_⟩ <;> rw [EdgeKeys.kept_cons_of_ours ours]
    · exact List.forall_mem_cons.mpr ⟨fresh, fun r' hr' => ((newer r').mp (new r' hr')).2⟩
    · refine List.nodup_cons.mpr ⟨?_, distinct⟩
      intro known
      obtain ⟨r', hr', same⟩ := List.mem_map.mp known
      exact ((newer r').mp (new r' hr')).1 same
    · exact .cons first made

/-- Requests succeed if and only if those that are not left to others can be made. -/
theorem planRequests_ok_iff :
    (m.planRequests external kind rs).run noted = .ok batch noted' ↔
      m.Makes external noted kind rs batch.edges ∧
        batch.skipped = (external.ceded kind rs).map (·.skip kind) ∧
        noted' = noted.noteAll kind (external.kept kind rs) := by
  induction rs generalizing noted noted' batch with
  | nil =>
    rw [planRequests, run_pure_ok, makes_nil]
    constructor
    · rintro ⟨rfl, rfl⟩
      exact ⟨rfl, rfl, rfl⟩
    · rintro ⟨edges, skipped, rfl⟩
      obtain ⟨_, _⟩ := batch
      cases edges
      cases skipped
      exact ⟨rfl, rfl⟩
  | cons r rest ih =>
    rw [planRequests, run_bind_ok]
    constructor
    · rintro ⟨first, s₁, one, run⟩
      obtain ⟨others, s₂, more, last⟩ := run_bind_ok.mp run
      obtain ⟨rfl, rfl⟩ := run_pure_ok.mp last
      obtain ⟨makes, skipped, rfl⟩ := ih.mp more
      rcases planEdge_cases one with ⟨left, rfl, rfl⟩ | ⟨ours, new, rfl, e, made, rfl⟩
      · rw [makes_cons_of_left left, EdgeKeys.ceded_cons_of_left left,
          EdgeKeys.kept_cons_of_left left]
        exact ⟨makes, congrArg (r.skip kind :: ·) skipped, rfl⟩
      · rw [makes_cons_of_ours ours, EdgeKeys.ceded_cons_of_ours ours,
          EdgeKeys.kept_cons_of_ours ours]
        exact ⟨⟨new, e, others.edges, made, rfl, makes⟩, skipped, rfl⟩
    · rintro ⟨makes, skipped, rfl⟩
      cases left : external.contains kind r.key with
      | true =>
        rw [makes_cons_of_left left] at makes
        rw [EdgeKeys.ceded_cons_of_left left] at skipped
        rw [EdgeKeys.kept_cons_of_left left]
        refine ⟨_, noted, planEdge_skips noted left, run_bind_ok.mpr
          ⟨⟨batch.edges, (external.ceded kind rest).map (·.skip kind)⟩, _,
            ih.mpr ⟨makes, rfl, rfl⟩, run_pure_ok.mpr ⟨?_, rfl⟩⟩⟩
        obtain ⟨edges, _⟩ := batch
        cases skipped
        rfl
      | false =>
        obtain ⟨new, e, others, made, edges, makes⟩ := (makes_cons_of_ours left).mp makes
        rw [EdgeKeys.ceded_cons_of_ours left] at skipped
        rw [EdgeKeys.kept_cons_of_ours left]
        refine ⟨_, _, planEdge_creates left new made, run_bind_ok.mpr
          ⟨⟨others, batch.skipped⟩, _, ih.mpr ⟨makes, skipped, rfl⟩, run_pure_ok.mpr ⟨?_, rfl⟩⟩⟩
        obtain ⟨_, skipped⟩ := batch
        cases edges
        rfl

/-! ## The edges of a unit -/

/-- What a unit asks for: the attachments that it owns, in the order of their keys, each with the
route tables that it names. -/
def requests (m : UnitMap) (kind : EdgeKind) : List EdgeRequest := requestsOf kind m.owned

theorem mem_requests : r ∈ m.requests kind ↔
    ∃ a, (r.attachment, a) ∈ m.owned ∧ r.table ∈ a.descriptor.tables kind := by
  simp only [requests, requestsOf, List.mem_flatMap, List.mem_map]
  constructor
  · rintro ⟨⟨key, a⟩, own, table, named, rfl⟩
    exact ⟨a, own, named⟩
  · rintro ⟨a, own, named⟩
    exact ⟨_, own, r.table, named, rfl⟩

/-- The edge of a request, with what stands in the entry of its attachment. -/
def record (m : UnitMap) (kind : EdgeKind) (r : EdgeRequest) (a : ResolvedAttachment)
    (tableId : String) : Edge :=
  { kind
    key := r.key
    logicalId := Key.logicalId a.descriptor.name r.table
      (if a.descriptor.templated then some a.descriptor.owner.account else none) kind.label
    attachmentKey := r.attachment
    attachmentId := a.id
    routeTable := r.table
    routeTableId := tableId
    scope := m.scope }

/-- The route table of a request stands in the map, beside the gateway of the attachment. -/
def Leads (m : UnitMap) (r : EdgeRequest) (a : ResolvedAttachment) (tableId : String) : Prop :=
  (r.attachment, a) ∈ m.owned ∧
    m.routeTableId? a.descriptor.region a.descriptor.gateway r.table = some tableId

/-- Of a request the edge is planned. -/
def Answers (m : UnitMap) (kind : EdgeKind) (r : EdgeRequest) (e : Edge) : Prop :=
  ∃ a tableId, m.Leads r a tableId ∧ e = m.record kind r a tableId

/-- What it takes to plan the edges of a sort: no two requests that are not left to others are for
one edge, and the route table of each stands in the map. -/
structure Plannable (m : UnitMap) (external : EdgeKeys) (kind : EdgeKind) : Prop where
  distinct : ((external.kept kind (m.requests kind)).map (·.key)).Nodup
  resolved : ∀ r ∈ external.kept kind (m.requests kind), ∃ a tableId, m.Leads r a tableId

theorem edge_of_leads {a : ResolvedAttachment} {tableId : String} (leads : m.Leads r a tableId) :
    m.edge kind r.attachment r.table = .ok (m.record kind r a tableId) := by
  obtain ⟨own, there⟩ := leads
  have found := SortedMap.mem_entries.mp (List.mem_filter.mp own).1
  simp only [edge, found, there]
  rfl

/-- Of a request of the unit the edge is planned if it is made. -/
theorem answers_of_edge {e : Edge} (hr : r ∈ m.requests kind)
    (made : m.edge kind r.attachment r.table = .ok e) : m.Answers kind r e := by
  obtain ⟨a, own, -⟩ := mem_requests.mp hr
  obtain ⟨a', tableId, found, there, rfl⟩ := edge_ok made
  obtain rfl : a' = a := Option.some.inj
    (found.symm.trans (SortedMap.mem_entries.mp (List.mem_filter.mp own).1))
  exact ⟨a', tableId, ⟨own, there⟩, rfl⟩

theorem makes_requests {edges : List Edge} (none : ∀ key, noted.contains kind key = false) :
    m.Makes external noted kind (m.requests kind) edges ↔
      ((external.kept kind (m.requests kind)).map (·.key)).Nodup ∧
        List.Forall₂ (m.Answers kind) (external.kept kind (m.requests kind)) edges := by
  constructor
  · rintro ⟨-, distinct, made⟩
    have asked : ∀ r ∈ external.kept kind (m.requests kind), r ∈ m.requests kind :=
      fun r hr => (EdgeKeys.mem_kept.mp hr).1
    refine ⟨distinct, ?_⟩
    exact ((List.forall₂_and_left _ _).mpr ⟨asked, made⟩).imp fun r e ⟨hr, made⟩ =>
      answers_of_edge hr made
  · rintro ⟨distinct, answers⟩
    refine ⟨fun r _ => none r.key, distinct, answers.imp ?_⟩
    rintro r e ⟨a, tableId, leads, rfl⟩
    exact edge_of_leads leads

/-- The edges of one sort, none of which has been asked for before. -/
theorem planAttachments_ok_iff (none : ∀ key, noted.contains kind key = false) :
    (m.planAttachments external kind m.owned).run noted = .ok batch noted' ↔
      (((external.kept kind (m.requests kind)).map (·.key)).Nodup ∧
        List.Forall₂ (m.Answers kind) (external.kept kind (m.requests kind)) batch.edges) ∧
      batch.skipped = (external.ceded kind (m.requests kind)).map (·.skip kind) ∧
      noted' = noted.noteAll kind (external.kept kind (m.requests kind)) := by
  rw [planAttachments_eq_planRequests, planRequests_ok_iff]
  exact and_congr_left' (makes_requests none)

theorem planAttachments_succeeds (none : ∀ key, noted.contains kind key = false)
    (plannable : m.Plannable external kind) :
    ∃ batch, (m.planAttachments external kind m.owned).run noted =
      .ok batch (noted.noteAll kind (external.kept kind (m.requests kind))) := by
  obtain ⟨distinct, resolved⟩ := plannable
  choose! a tableId leads using resolved
  refine ⟨⟨(external.kept kind (m.requests kind)).map fun r => m.record kind r (a r) (tableId r),
    _⟩, (planAttachments_ok_iff none).mpr ⟨⟨distinct, ?_⟩, rfl, rfl⟩⟩
  rw [List.forall₂_map_right_iff, List.forall₂_same]
  exact fun r hr => ⟨a r, tableId r, leads r hr, rfl⟩

theorem plannable_of_answers {edges : List Edge}
    (distinct : ((external.kept kind (m.requests kind)).map (·.key)).Nodup)
    (answers : List.Forall₂ (m.Answers kind) (external.kept kind (m.requests kind)) edges) :
    m.Plannable external kind := by
  refine ⟨distinct, fun r hr => ?_⟩
  obtain ⟨e, -, a, tableId, leads, -⟩ := exists_of_forall₂ answers.flip hr
  exact ⟨a, tableId, leads⟩

theorem not_contains_start (kind : EdgeKind) :
    ∀ key, ({} : EdgeKeys).contains kind key = false := by
  intro key
  cases kind <;> rfl

/-- The keys of associations are not looked for among those of propagations. -/
theorem not_contains_noteAll :
    ∀ key, (EdgeKeys.noteAll {} .association rs).contains .propagation key = false := by
  intro key
  rw [← Bool.not_eq_true, EdgeKeys.contains_noteAll]
  rintro (⟨other, -⟩ | there)
  · exact nomatch other
  · exact nomatch there

end UnitMap

/-- A unit can plan its edges if and only if it can plan those of either sort. The edges are then
those of the requests that are not left to others, in their order, and each has the ids that
stand in the map for its own attachment and route table; the others are skipped, in their
order, as often as they are asked for. -/
theorem edges_planned_iff (m : UnitMap) (external : EdgeKeys) :
    ((∃ graph noted, (m.planGraph external).run {} = .ok graph noted) ↔
      ∀ kind, m.Plannable external kind) ∧
    ∀ graph noted, (m.planGraph external).run {} = .ok graph noted → ∀ kind,
      List.Forall₂ (m.Answers kind) (external.kept kind (m.requests kind))
          (graph.batch kind).edges ∧
        (graph.batch kind).skipped = (external.ceded kind (m.requests kind)).map (·.skip kind) := by
  have outcome {graph : EdgeGraph} {noted : EdgeKeys}
      (run : (m.planGraph external).run {} = .ok graph noted) (kind : EdgeKind) :
      (((external.kept kind (m.requests kind)).map (·.key)).Nodup ∧
        List.Forall₂ (m.Answers kind) (external.kept kind (m.requests kind))
          (graph.batch kind).edges) ∧
        (graph.batch kind).skipped = (external.ceded kind (m.requests kind)).map (·.skip kind) := by
    obtain ⟨between, one, other⟩ := UnitMap.planGraph_ok run
    obtain ⟨associations, skipped, rfl⟩ :=
      (UnitMap.planAttachments_ok_iff (UnitMap.not_contains_start _)).mp one
    obtain ⟨propagations, skipped', -⟩ :=
      (UnitMap.planAttachments_ok_iff UnitMap.not_contains_noteAll).mp other
    cases kind with
    | association => exact ⟨associations, skipped⟩
    | propagation => exact ⟨propagations, skipped'⟩
  refine ⟨⟨?_, fun plannable => ?_⟩, fun graph noted run kind => ?_⟩
  · rintro ⟨graph, noted, run⟩ kind
    obtain ⟨⟨distinct, answers⟩, -⟩ := outcome run kind
    exact UnitMap.plannable_of_answers distinct answers
  · obtain ⟨associations, one⟩ :=
      UnitMap.planAttachments_succeeds (UnitMap.not_contains_start _) (plannable .association)
    obtain ⟨propagations, other⟩ :=
      UnitMap.planAttachments_succeeds UnitMap.not_contains_noteAll (plannable .propagation)
    exact ⟨⟨associations, propagations⟩, _,
      run_bind_ok.mpr ⟨_, _, one, run_bind_ok.mpr ⟨_, _, other, rfl⟩⟩⟩
  · obtain ⟨⟨-, answers⟩, skipped⟩ := outcome run kind
    exact ⟨answers, skipped⟩

/-- The sample with an attachment that announces itself to a route table twice. -/
def Topology.sampleRepeating : Topology :=
  { sample with
    network := { sample.network with
      vpcs := sample.network.vpcs.map fun v =>
        { v with
          attachments := v.attachments.map fun a => { a with propagations := ["hub", "hub"] } } } }

/-- The announcement is skipped twice if it is left to others. If it is not, the unit cannot plan
its edges. -/
theorem edges_planned_iff_sample :
    ∃ m s, (UnitMap.build (Topology.sampleRepeating.vantage ⟨"Workload", "us-east-1"⟩
        (.fixed fun _ => .value "id")) .sampleRepeating).run {} = .ok m s ∧
      (∃ graph noted,
        (m.planGraph (.ofExternal { propagations := ["Core_Workload_App__hub"] })).run {} =
            .ok graph noted ∧
          List.Forall₂ (m.Answers .association) [⟨"Core_Workload_App", "spokes"⟩]
            graph.associations.edges ∧
          graph.propagations.skipped =
            [⟨.propagation, "Core_Workload_App__hub"⟩, ⟨.propagation, "Core_Workload_App__hub"⟩]) ∧
      ¬∃ graph noted, (m.planGraph {}).run {} = .ok graph noted := by
  have mapped : (UnitMap.build (Topology.sampleRepeating.vantage ⟨"Workload", "us-east-1"⟩
      (.fixed fun _ => .value "id")) .sampleRepeating).comesTo (fun m => decide
        (m.requests .association = [⟨"Core_Workload_App", "spokes"⟩] ∧
          m.requests .propagation = [⟨"Core_Workload_App", "hub"⟩, ⟨"Core_Workload_App", "hub"⟩] ∧
          ∃ x ∈ m.owned, x.1 = "Core_Workload_App" ∧ (m.routeTableId? x.2.descriptor.region
            x.2.descriptor.gateway "spokes").isSome)) = true := by
    decide +kernel
  obtain ⟨m, s, run, check⟩ := Lookup.exists_of_comesTo mapped
  obtain ⟨associations, propagations, ⟨_, a⟩, own, rfl, resolved⟩ := of_decide_eq_true check
  obtain ⟨tableId, there⟩ := Option.isSome_iff_exists.mp resolved
  let external := EdgeKeys.ofExternal { propagations := ["Core_Workload_App__hub"] }
  have ours : external.kept .association (m.requests .association) =
      [⟨"Core_Workload_App", "spokes"⟩] := by
    rw [associations]
    decide +kernel
  have nothing : external.kept .propagation (m.requests .propagation) = [] := by
    rw [propagations]
    decide +kernel
  have left : (external.ceded .propagation (m.requests .propagation)).map (·.skip .propagation) =
      [⟨.propagation, "Core_Workload_App__hub"⟩, ⟨.propagation, "Core_Workload_App__hub"⟩] := by
    rw [propagations]
    decide +kernel
  obtain ⟨plans, planned⟩ := edges_planned_iff m external
  obtain ⟨graph, noted, drawn⟩ := plans.mpr (by
    intro kind
    cases kind with
    | association =>
      refine ⟨by simp [ours], fun r hr => ?_⟩
      rw [ours, List.mem_singleton] at hr
      exact ⟨a, tableId, by rwa [hr], by rwa [hr]⟩
    | propagation => exact ⟨by simp [nothing], by simp [nothing]⟩)
  refine ⟨m, s, run, ⟨graph, noted, drawn, ?_, ?_⟩, fun alone => ?_⟩
  · have answers := (planned graph noted drawn .association).1
    rwa [ours] at answers
  · exact (planned graph noted drawn .propagation).2.trans left
  · have distinct := ((edges_planned_iff m {}).1.mp alone .propagation).distinct
    rw [propagations] at distinct
    revert distinct
    decide +kernel

end Interlink
