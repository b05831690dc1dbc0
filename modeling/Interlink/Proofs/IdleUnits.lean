import Interlink.Proofs.Stages

/-!
# Units that have nothing to do

The stages of a plan look for what concerns a unit, each in its own way: gateways by the
account and the region, attachments by their owner or their gateway, connections by the
requester's scope, prefix lists by where they are deployed, and VPCs with rules by both
account and region. A unit for which none of them finds anything (`Topology.Idle`) is
planned without a question, and its plan is empty (`idle_unit_plans_nothing`).

Only attachments need an argument. One that somebody else owns is looked at by the unit
of its gateway, so it has to be excluded that the unit has the gateway; the gateway of
every attachment that is described is defined in the attachment's region
(`UnitMap.gateway_of_described`).
-/

namespace Interlink

open Lookup

/-- There is nothing for the unit of a scope to do. -/
structure Topology.Idle (t : Topology) (scope : Scope) : Prop where
  /-- The account is listed. -/
  member : (t.registry.accountId? scope.account).isSome
  /-- No gateway is in the account and the region. -/
  gateways : ∀ g ∈ t.network.gateways, ¬(g.account = scope.account ∧ g.region = scope.region)
  /-- The attachments can be described, and the unit owns none. -/
  attachments : ∃ ds, t.attachments t.registry scope = .ok ds ∧ ∀ d ∈ ds, d.owner ≠ scope
  /-- The connections can be made, and the unit requests none. -/
  connections : ∃ cs, t.connections t.registry scope t.settings.pathPrefix = .ok cs ∧
    ∀ c ∈ cs, c.requester.scope ≠ scope
  prefixLists : ∀ l ∈ t.network.prefixLists, l.isDeployedTo scope.account scope.region = false
  /-- No VPC of the unit lists rules. -/
  rules : ∀ vpc ∈ t.network.vpcs, vpc.resolverRules ≠ [] →
    ¬(vpc.region = scope.region ∧ scope.account ∈ t.registry.vpcAccounts vpc)

/-- The plan with nothing in it. -/
def Plan.nothing (metadata : PlanMetadata) : Plan where
  metadata
  attachments := []
  associations := []
  propagations := []
  skippedEdges := []
  gatewayRoutes := []
  peering := {}
  ruleAssociations := []

/-- Where there is nothing to go through, nothing happens. -/
theorem Lookup.foldlM_run_of_nil {α β : Type} {step : β → α → Lookup β} {as : List α} (b : β)
    (s : Run) (none : as = []) : (as.foldlM step b).run s = .ok b s := by
  subst none
  rfl

namespace Topology.Idle

variable {t : Topology} {scope : Scope}

theorem ownGateways_eq_nil (idle : t.Idle scope) : UnitMap.ownGateways t scope = [] := by
  refine List.filter_eq_nil_iff.mpr fun g hg => ?_
  simpa using idle.gateways g hg

/-- No attachment concerns the unit: it owns none, and no gateway that one could be on. -/
theorem concerned_eq_nil {ds : List Attachment} (idle : t.Idle scope)
    (described : t.attachments t.registry scope = .ok ds) :
    ds.filter (UnitMap.concerns scope) = [] := by
  obtain ⟨ds', described', foreign⟩ := idle.attachments
  obtain rfl : ds' = ds := Except.ok.inj (described'.symm.trans described)
  refine List.filter_eq_nil_iff.mpr fun d hd concerned => ?_
  obtain ⟨g, defined, -, account, region⟩ := UnitMap.gateway_of_described described hd
  have near := UnitMap.region_of_concerns concerned
  simp only [UnitMap.concerns, UnitMap.ownsGateway, Bool.and_eq_true, Bool.or_eq_true,
    beq_iff_eq] at concerned
  rcases concerned.2 with ours | mine
  · exact idle.gateways g defined ⟨account.trans ours, region.trans near⟩
  · exact foreign d hd mine

/-- The map of the unit is empty. -/
theorem map_run (idle : t.Idle scope) (backend : Backend) (s : Run) :
    (UnitMap.build (t.vantage scope backend) t).run s = .ok { scope } s := by
  obtain ⟨ds, described, -⟩ := idle.attachments
  have lists : t.network.prefixLists.filter (·.isDeployedTo scope.account scope.region) = [] :=
    List.filter_eq_nil_iff.mpr fun l hl => by simp [idle.prefixLists l hl]
  exact run_bind_ok.mpr ⟨_, s, foldlM_run_of_nil _ s idle.ownGateways_eq_nil,
    run_bind_ok.mpr ⟨ds, s, run_ofExcept_ok.mpr ⟨described, rfl⟩,
    run_bind_ok.mpr ⟨_, s, foldlM_run_of_nil _ s (idle.concerned_eq_nil described),
    foldlM_run_of_nil _ s lists⟩⟩⟩

/-- The unit requests no connection. -/
theorem peering_run (idle : t.Idle scope) (backend : Backend) (s : Run) :
    (PeeringPlan.build (t.vantage scope backend) t).run s = .ok {} s := by
  obtain ⟨cs, made, foreign⟩ := idle.connections
  have none : t.connectionsOf t.registry scope t.settings.pathPrefix = .ok [] := by
    rw [connectionsOf, made]
    refine congrArg Except.ok (List.filter_eq_nil_iff.mpr fun c hc => ?_)
    simpa using foreign c hc
  exact run_bind_ok.mpr ⟨[], s, run_ofExcept_ok.mpr ⟨none, rfl⟩, rfl⟩

/-- The unit has no VPC to associate rules with. -/
theorem rules_run (idle : t.Idle scope) (backend : Backend) (s : Run) :
    (RuleAssociation.build (t.vantage scope backend) t).run s = .ok [] s := by
  have none : t.network.vpcs.filter (RuleAssociation.concerns (t.vantage scope backend)) = [] := by
    refine List.filter_eq_nil_iff.mpr fun vpc hvpc concerned => ?_
    simp only [RuleAssociation.concerns, vantage, Bool.and_eq_true, Bool.not_eq_true',
      List.isEmpty_eq_false_iff, beq_iff_eq, List.contains_iff_mem] at concerned
    obtain ⟨⟨lists, region⟩, account⟩ := concerned
    exact idle.rules vpc hvpc lists ⟨region, account⟩
  rw [RuleAssociation.build, none]
  rfl

end Topology.Idle

/-- A unit with nothing to do is planned behind every backend, without a question. There is nothing
in its plan, and nothing has been counted. -/
theorem idle_unit_plans_nothing {t : Topology} {scope : Scope} (idle : t.Idle scope)
    (backend : Backend) :
    t.plan scope backend = .ok (.nothing ⟨scope, t.settings.pathPrefix, ⟨{}, 0, 0⟩⟩) {} := by
  obtain ⟨id, known⟩ := Option.isSome_iff_exists.mp idle.member
  have member : Vantage.requireId t.registry scope.account scope = .ok id := by
    rw [Vantage.requireId, known]
  have routes : UnitMap.gatewayRoutes { scope } t = .ok [] := by
    rw [UnitMap.gatewayRoutes, idle.ownGateways_eq_nil]
    rfl
  exact Plan.build_of_stages member (idle.map_run backend {}) rfl routes
    (idle.peering_run backend {}) (idle.rules_run backend {})

/-- Nothing of the sample is in the home region, so a unit there has nothing to do, although its
account has a VPC with an attachment, a peering and a rule in another region. A backend that
fails is not asked. -/
theorem idle_unit_plans_nothing_sample :
    Topology.sample.Idle ⟨"Workload", "eu-west-1"⟩ ∧
      Topology.sample.plan ⟨"Workload", "eu-west-1"⟩ (.fixed fun _ => .failed (.throttled 1)) =
        .ok (.nothing ⟨⟨"Workload", "eu-west-1"⟩, "accel", ⟨{}, 0, 0⟩⟩) {} := by
  have idle : Topology.sample.Idle ⟨"Workload", "eu-west-1"⟩ :=
    { member := by decide +kernel
      gateways := by decide +kernel
      attachments := ⟨_, rfl, by decide +kernel⟩
      connections := ⟨_, rfl, by decide +kernel⟩
      prefixLists := by decide +kernel
      rules := by decide +kernel }
  exact ⟨idle, idle_unit_plans_nothing idle _⟩

end Interlink
