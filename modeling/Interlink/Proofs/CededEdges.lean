import Interlink.Proofs.Consistency

/-!
# Edges ceded to others

A topology lists the edges that somebody else creates. When more of them are listed, and
nothing else is changed, a unit that could be planned can be planned again: the edges that
are ceded leave the plan and are skipped, and the plan is otherwise the same
(`ceding_only_removes`).

The two runs go side by side. The list is read by the planning of edges only, so the other
stages are one and the same (`PeeringPlan.build_ceding`, for one). An edge that is ceded is
not asked for, so the second planning has never noted a key that the first one has not
(`EdgeKeys.Within`): it can be refused no request that the first one was granted. This is
carried from one edge to all edges of a unit (`UnitMap.Recedes`).
-/

namespace Interlink

/-! ## Topologies that cede more -/

/-- The topology with other edges left to others. -/
def Topology.ceding (t : Topology) (external : ExternalEdges) : Topology :=
  { t with network := { t.network with external } }

/-- All edges that are left to others still are. -/
def ExternalEdges.Within (external external' : ExternalEdges) : Prop :=
  ∀ kind, external.keys kind ⊆ external'.keys kind

section Stages

variable (v : Vantage) (t : Topology) (external : ExternalEdges)

theorem Vantage.planRoutes_ceding (c : Connection) (side : PeeringSide) :
    ∀ entries, v.planRoutes (t.ceding external) c side entries = v.planRoutes t c side entries
  | [] => rfl
  | (table, r) :: rest => by
    rw [planRoutes, planRoutes, planRoutes_ceding c side rest]
    rfl

theorem Vantage.planSide_ceding (side : PeeringSide) :
    v.planSide (t.ceding external) side = v.planSide t side := by
  funext c
  unfold planSide
  simp only [v.planRoutes_ceding]
  rfl

theorem PeeringPlan.build_ceding : build v (t.ceding external) = build v t := by
  unfold build
  simp only [planSides, v.planSide_ceding]
  rfl

theorem RuleAssociation.planRules_ceding (vpc : Vpc) (vpcId : String) :
    ∀ names, planRules v (t.ceding external) vpc vpcId names = planRules v t vpc vpcId names
  | [] => rfl
  | name :: rest => by
    rw [planRules, planRules, planRules_ceding vpc vpcId rest]
    rfl

theorem RuleAssociation.planVpcs_ceding :
    ∀ vpcs, planVpcs v (t.ceding external) vpcs = planVpcs v t vpcs
  | [] => rfl
  | vpc :: rest => by
    simp only [planVpcs, planVpcs_ceding rest, planRules_ceding]

theorem RuleAssociation.build_ceding : build v (t.ceding external) = build v t :=
  planVpcs_ceding v t external _

end Stages

/-! ## One batch beside the other -/

theorem EdgeKeys.contains_ofExternal_eq (external : ExternalEdges) (kind : EdgeKind) :
    (ofExternal external).contains kind = fun key => decide (key ∈ external.keys kind) := by
  funext key
  rw [Bool.eq_iff_iff, contains_ofExternal, decide_eq_true_iff]

/-- No more has been asked for. -/
def EdgeKeys.Within (noted noted' : EdgeKeys) : Prop :=
  ∀ kind key, noted.contains kind key → noted'.contains kind key

theorem EdgeKeys.Within.add {noted noted' : EdgeKeys} (within : noted.Within noted')
    (kind : EdgeKind) (key : String) : (noted.add kind key).Within (noted'.add kind key) := by
  intro kind' key' there
  rw [contains_add] at there ⊢
  exact there.imp_right (within kind' key')

theorem EdgeKeys.Within.noted {noted noted' : EdgeKeys} (within : noted.Within noted')
    (kind : EdgeKind) (key : String) : noted.Within (noted'.add kind key) := by
  intro kind' key' there
  exact (contains_add ..).mpr (.inr (within kind' key' there))

/-- The record of an edge that is left to others. -/
def Edge.leave (e : Edge) : SkippedEdge := ⟨e.kind, e.key⟩

/-- What becomes of a batch when the edges of some keys are ceded. -/
structure EdgeBatch.Cedes (gone : String → Bool) (batch batch' : EdgeBatch) : Prop where
  /-- The other edges are created as before, in their order. -/
  edges : batch'.edges = batch.edges.filter (!gone ·.key)
  /-- So are the edges skipped that were skipped before. -/
  kept : batch.skipped.Sublist batch'.skipped
  /-- With these the ceded ones are skipped, and nothing else is. -/
  skipped : batch'.skipped.Perm
    (batch.skipped ++ (batch.edges.filter (gone ·.key)).map Edge.leave)

section Cedes

variable {gone : String → Bool} {batch batch' others others' : EdgeBatch}

/-- A batch without edges has nothing to cede. -/
theorem EdgeBatch.cedes_of_skipped (skipped : List SkippedEdge) :
    Cedes gone { skipped } { skipped } :=
  ⟨rfl, .refl _, by simp⟩

theorem EdgeBatch.Cedes.append (h : Cedes gone batch batch') (h' : Cedes gone others others') :
    Cedes gone (batch ++ others) (batch' ++ others') where
  edges := by
    show batch'.edges ++ others'.edges = (batch.edges ++ others.edges).filter _
    rw [h.edges, h'.edges, List.filter_append]
  kept := h.kept.append h'.kept
  skipped := by
    show (batch'.skipped ++ others'.skipped).Perm ((batch.skipped ++ others.skipped) ++
      ((batch.edges ++ others.edges).filter _).map _)
    rw [List.filter_append, List.map_append]
    refine (h.skipped.append h'.skipped).trans ?_
    simp only [List.append_assoc]
    exact (List.perm_append_comm_assoc ..).append_left batch.skipped

end Cedes

/-! ## One planning beside the other -/

namespace UnitMap

variable {m : UnitMap} {kind : EdgeKind} {external external' : EdgeKeys}
  {x x' y y' : EdgePlanning EdgeBatch} {key : String}

/-- Wherever a planning succeeds, another one that has been asked for no more succeeds too, with the
edges that are not ceded, and has been asked for no more after it. -/
def Recedes (gone : String → Bool) (x x' : EdgePlanning EdgeBatch) : Prop :=
  ∀ noted batch noted', x.run noted = .ok batch noted' → ∀ small, small.Within noted →
    ∃ batch' small', x'.run small = .ok batch' small' ∧ small'.Within noted' ∧
      batch.Cedes gone batch'

theorem recedes_nothing {gone : String → Bool} : Recedes gone (pure {}) (pure {}) := by
  intro noted batch noted' run small within
  obtain ⟨rfl, rfl⟩ := run_pure_ok.mp run
  exact ⟨{}, small, rfl, within, EdgeBatch.cedes_of_skipped []⟩

/-- Two plannings in a row. -/
theorem Recedes.append {gone : String → Bool} (first : Recedes gone x x')
    (others : Recedes gone y y') :
    Recedes gone (do let a ← x; let b ← y; pure (a ++ b))
      (do let a ← x'; let b ← y'; pure (a ++ b)) := by
  intro noted batch noted' run small within
  obtain ⟨a, s₁, one, run⟩ := run_bind_ok.mp run
  obtain ⟨b, s₂, two, last⟩ := run_bind_ok.mp run
  obtain ⟨rfl, rfl⟩ := run_pure_ok.mp last
  obtain ⟨a', small₁, one', within₁, ceded⟩ := first _ _ _ one small within
  obtain ⟨b', small₂, two', within₂, ceded'⟩ := others _ _ _ two small₁ within₁
  exact ⟨a' ++ b', small₂, run_bind_ok.mpr ⟨a', small₁, one', run_bind_ok.mpr
    ⟨b', small₂, two', rfl⟩⟩, within₂, ceded.append ceded'⟩

/-- An edge that is left to others is skipped, whatever has been asked for. -/
theorem planEdge_skips {table : String} (noted : EdgeKeys)
    (left : external.contains kind (Key.edge key table)) :
    (m.planEdge external kind key table).run noted =
      .ok { skipped := [⟨kind, Key.edge key table⟩] } noted := by
  simp only [planEdge, left, if_true]
  rfl

/-- An edge is created that is not left to others and has not been asked for. -/
theorem planEdge_creates {table : String} {noted : EdgeKeys} {e : Edge}
    (ours : external.contains kind (Key.edge key table) = false)
    (new : noted.contains kind (Key.edge key table) = false)
    (made : m.edge kind key table = .ok e) :
    (m.planEdge external kind key table).run noted =
      .ok { edges := [e] } (noted.add kind (Key.edge key table)) := by
  simp only [planEdge, ours, Bool.false_eq_true, if_false]
  refine run_bind_ok.mpr ⟨noted, noted, rfl, ?_⟩
  simp only [new, Bool.false_eq_true, if_false, made]
  rfl

variable (more : ∀ key, external.contains kind key → external'.contains kind key)
include more

theorem planEdge_recedes (table : String) :
    Recedes (external'.contains kind) (m.planEdge external kind key table)
      (m.planEdge external' kind key table) := by
  intro noted batch noted' run small within
  rcases planEdge_cases run with ⟨left, rfl, rfl⟩ | ⟨-, new, rfl, e, made, rfl⟩
  · exact ⟨_, small, planEdge_skips small (more _ left), within, EdgeBatch.cedes_of_skipped _⟩
  · obtain ⟨a, id, -, -, drawn⟩ := edge_ok made
    have keyed : e.key = Key.edge key table := by rw [drawn]
    cases ceded : external'.contains kind (Key.edge key table) with
    | true =>
      have leave : e.leave = ⟨kind, Key.edge key table⟩ := by
        rw [Edge.leave, drawn]
      refine ⟨_, small, planEdge_skips small ceded, within.noted _ _, ?_⟩
      exact ⟨by simp [keyed, ceded], List.nil_sublist _, by simp [keyed, ceded, leave]⟩
    | false =>
      have newer : small.contains kind (Key.edge key table) = false := by
        by_contra there
        exact nomatch (within kind _ (by simpa using there)).symm.trans new
      refine ⟨_, _, planEdge_creates ceded newer made, within.add _ _, ?_⟩
      exact ⟨by simp [keyed, ceded], .refl _, by simp [keyed, ceded]⟩

theorem planEdges_recedes : ∀ tables : List String,
    Recedes (external'.contains kind) (m.planEdges external kind key tables)
      (m.planEdges external' kind key tables)
  | [] => recedes_nothing
  | table :: rest => (planEdge_recedes more table).append (planEdges_recedes rest)

theorem planAttachments_recedes : ∀ entries : List (String × ResolvedAttachment),
    Recedes (external'.contains kind) (m.planAttachments external kind entries)
      (m.planAttachments external' kind entries)
  | [] => recedes_nothing
  | (_, _) :: rest => (planEdges_recedes more _).append (planAttachments_recedes rest)

end UnitMap

/-- The edges of one sort and what was skipped of it. -/
def EdgeGraph.batch (g : EdgeGraph) : EdgeKind → EdgeBatch
  | .association => g.associations
  | .propagation => g.propagations

theorem Plan.edgesOf_of_run {m : UnitMap} {t : Topology} {graph : EdgeGraph} {noted : EdgeKeys}
    (run : (m.planGraph (.ofExternal t.network.external)).run {} = .ok graph noted) :
    edgesOf m t = .ok graph := by
  rw [edgesOf, run]

/-- A unit that plans its edges plans them again when more are ceded. -/
theorem Plan.edgesOf_recedes {m : UnitMap} {t : Topology} {external : ExternalEdges}
    {graph : EdgeGraph} (more : t.network.external.Within external)
    (planned : edgesOf m t = .ok graph) :
    ∃ graph', edgesOf m (t.ceding external) = .ok graph' ∧
      ∀ kind, (graph.batch kind).Cedes (· ∈ external.keys kind) (graph'.batch kind) := by
  have left (kind : EdgeKind) (key : String)
      (left : (EdgeKeys.ofExternal t.network.external).contains kind key) :
      (EdgeKeys.ofExternal external).contains kind key :=
    EdgeKeys.contains_ofExternal.mpr (more kind (EdgeKeys.contains_ofExternal.mp left))
  obtain ⟨between, noted, one, other⟩ := edgesOf_ok planned
  obtain ⟨associations, small, one', within, ceded⟩ :=
    UnitMap.planAttachments_recedes (left .association) m.owned _ _ _ one {} fun _ _ there => there
  obtain ⟨propagations, small', other', -, ceded'⟩ :=
    UnitMap.planAttachments_recedes (left .propagation) m.owned _ _ _ other small within
  have run : (m.planGraph (.ofExternal external)).run {} =
      .ok ⟨associations, propagations⟩ small' :=
    run_bind_ok.mpr ⟨_, small, one', run_bind_ok.mpr ⟨_, small', other', rfl⟩⟩
  rw [EdgeKeys.contains_ofExternal_eq] at ceded ceded'
  refine ⟨⟨associations, propagations⟩, edgesOf_of_run (t := t.ceding external) run, fun kind => ?_⟩
  cases kind with
  | association => exact ceded
  | propagation => exact ceded'

/-! ## Plans -/

/-- The edges of a sort that a plan creates and that are left to others in future. -/
def Plan.ceded (p : Plan) (external : ExternalEdges) (kind : EdgeKind) : List SkippedEdge :=
  ((p.edges kind).filter (·.key ∈ external.keys kind)).map Edge.leave

/-- What becomes of a plan when some edges are left to others. -/
structure Plan.Cedes (p : Plan) (external : ExternalEdges) (p' : Plan) : Prop where
  /-- The other edges are created as before, in their order. -/
  edges : ∀ kind, p'.edges kind = (p.edges kind).filter (·.key ∉ external.keys kind)
  /-- What was skipped is skipped, in its order. -/
  kept : p.skippedEdges.Sublist p'.skippedEdges
  /-- With it the ceded edges are skipped, and nothing else is. -/
  skipped : p'.skippedEdges.Perm
    (p.skippedEdges ++ (p.ceded external .association ++ p.ceded external .propagation))
  /-- All else is as it was, the counts of lookups included. -/
  rest : p' =
    { p with
      associations := p'.associations
      propagations := p'.propagations
      skippedEdges := p'.skippedEdges }

/-- Plans that differ in their edges only differ as their edges do. -/
theorem Plan.cedes_assemble {external : ExternalEdges} {graph graph' : EdgeGraph}
    (metadata : PlanMetadata) (m : UnitMap) (routes : List GatewayRoute) (peering : PeeringPlan)
    (rules : List RuleAssociation)
    (ceded : ∀ kind, (graph.batch kind).Cedes (· ∈ external.keys kind) (graph'.batch kind)) :
    (assemble metadata m graph routes peering rules).Cedes external
      (assemble metadata m graph' routes peering rules) where
  edges := by
    intro kind
    have edges := (ceded kind).edges
    simp only [← decide_not] at edges
    cases kind <;> exact edges
  kept := (ceded .association).kept.append (ceded .propagation).kept
  skipped := by
    have all := (ceded .association).skipped.append (ceded .propagation).skipped
    refine all.trans ?_
    show List.Perm _ ((graph.associations.skipped ++ graph.propagations.skipped) ++ _)
    simp only [List.append_assoc]
    exact (List.perm_append_comm_assoc ..).append_left _
  rest := rfl

/-- When more edges are left to others and nothing else is changed, each unit that could be planned
can be planned, with the same questions and answers. The edges that are ceded are skipped, in
addition to those that were, and the rest of the plan is as it was. So no edge of a sort is left
when all keys of the sort are ceded. -/
theorem ceding_only_removes {t : Topology} {external : ExternalEdges}
    (more : t.network.external.Within external) {scope : Scope} {backend : Backend} {p : Plan}
    {s : Run} (planned : t.plan scope backend = .ok p s) :
    ∃ p', (t.ceding external).plan scope backend = .ok p' s ∧ p.Cedes external p' ∧
      ∀ kind, (∀ e ∈ p.edges kind, e.key ∈ external.keys kind) → p'.edges kind = [] := by
  obtain ⟨id, member⟩ := Plan.member_of_build planned
  obtain ⟨m, s₁, graph, routes, peering, s₂, rules, mapped, edgesOk, routesOk, built, associated,
    rfl⟩ := Plan.build_ok planned
  obtain ⟨graph', edgesOk', ceded⟩ := Plan.edgesOf_recedes more edgesOk
  have again := Plan.build_of_stages (t := t.ceding external) member mapped edgesOk' routesOk
    (by rw [PeeringPlan.build_ceding]; exact built)
    (by rw [RuleAssociation.build_ceding]; exact associated)
  have removed := Plan.cedes_assemble ⟨scope, t.settings.pathPrefix, s.stats⟩ m routes peering rules
    ceded
  refine ⟨_, again, removed, fun kind all => (removed.edges kind).trans ?_⟩
  exact List.filter_eq_nil_iff.mpr fun e he => by simpa using all e he

/-- The unit of the sample's VPC has an association and a propagation. When the association is left
to others, the propagation stays. -/
theorem ceding_only_removes_sample :
    let external : ExternalEdges := { associations := ["Core_Workload_App__spokes"] }
    let backend : Backend := .fixed fun _ => .value "id"
    ∃ p p' s, Topology.sample.plan ⟨"Workload", "us-east-1"⟩ backend = .ok p s ∧
      p.associations.map (·.key) = ["Core_Workload_App__spokes"] ∧
      p.propagations.map (·.key) = ["Core_Workload_App__hub"] ∧ p.skippedEdges = [] ∧
      (Topology.sample.ceding external).plan ⟨"Workload", "us-east-1"⟩ backend = .ok p' s ∧
      p'.associations = [] ∧ p'.propagations = p.propagations ∧
      p'.skippedEdges = [⟨.association, "Core_Workload_App__spokes"⟩] ∧
      p'.peering = p.peering ∧ p'.metadata = p.metadata := by
  intro external backend
  have run : (Plan.build (Topology.sample.vantage ⟨"Workload", "us-east-1"⟩ backend)
      .sample).comesTo (fun p =>
        decide (p.associations.map (fun e => (e.kind, e.key)) =
            [(.association, "Core_Workload_App__spokes")] ∧
          p.propagations.map (·.key) = ["Core_Workload_App__hub"] ∧
          p.skippedEdges = [])) = true := by
    decide +kernel
  obtain ⟨p, s, planned, check⟩ := Lookup.exists_of_comesTo run
  obtain ⟨associations, propagations, nothing⟩ := of_decide_eq_true check
  obtain ⟨e, one, spokes⟩ := List.map_eq_singleton_iff.mp associations
  obtain ⟨kind, key⟩ := Prod.mk.inj spokes
  have more : Topology.sample.network.external.Within external := by
    intro kind
    cases kind <;> exact List.nil_subset _
  obtain ⟨p', planned', cedes, emptied⟩ := ceding_only_removes more planned
  have kept : p'.propagations = p.propagations := by
    refine (cedes.edges .propagation).trans (List.filter_eq_self.mpr fun e _ => ?_)
    simp [ExternalEdges.keys, external]
  have ceded : p.ceded external .association = [⟨.association, "Core_Workload_App__spokes"⟩] := by
    simp [Plan.ceded, Plan.edges, one, ExternalEdges.keys, external, key, kind, Edge.leave]
  have others : p.ceded external .propagation = [] := by
    simp [Plan.ceded, ExternalEdges.keys, external]
  have skipped := cedes.skipped
  rw [nothing, ceded, others] at skipped
  refine ⟨p, p', s, planned, by simp [one, key], propagations, nothing, planned', ?_, kept,
    List.perm_singleton.mp skipped, by rw [cedes.rest], by rw [cedes.rest]⟩
  exact emptied .association (by simp [Plan.edges, one, key, ExternalEdges.keys, external])

end Interlink
