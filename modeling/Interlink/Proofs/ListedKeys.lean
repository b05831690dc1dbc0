import Interlink.Proofs.Deployment
import Interlink.Proofs.GatewayRoutes
import Interlink.Proofs.Keys
import Interlink.Proofs.LogicalIds

/-!
# When static routes and rule associations have keys of their own

Edges and the routes of peerings are planned one after the other under keys that are noted, so
that none is planned twice. Static routes and rule associations are planned as they are
listed. Their keys are those of the list, one by one and in its order
(`Follows.key_eq`, `RuleAssociation.keys_of_build`), and are distinct if and only if those are.

The lists come in groups, the routes of a table and the rules of a VPC, and so there are two
ways in which keys can be equal (`nodup_grouped_iff`). Those of one group are equal where the
group repeats a label or a rule, which validation does not look for (`listed_keys_repeat`).
Those of different groups are equal where joined names run together, which they cannot where
the names in front or behind hold no joint (`listed_keys_distinct_iff`).
-/

namespace Interlink

/-- Keys that are made group by group are distinct if and only if no group has a member twice and
no two groups have a key in common. -/
theorem nodup_grouped_iff {α β κ : Type} {groups : List α} {members : α → List β}
    {key : α → β → κ} (inj : ∀ a, Function.Injective (key a)) :
    (groups.flatMap fun a => (members a).map (key a)).Nodup ↔
      (∀ a ∈ groups, (members a).Nodup) ∧
        groups.Pairwise fun a a' => ∀ b ∈ members a, ∀ b' ∈ members a', key a b ≠ key a' b' := by
  rw [List.nodup_flatMap]
  refine and_congr (forall₂_congr fun a _ => List.nodup_map_iff (inj a)) ?_
  refine List.Pairwise.iff fun a a' => ?_
  simp only [Function.onFun, List.disjoint_iff_ne, List.forall_mem_map]

/-- A text without underscores can be told from what stands before it, whatever that is. -/
theorem underscored_eq_iff {a b a' b' : String} (plain : '_' ∉ b.toList)
    (plain' : '_' ∉ b'.toList) : a ++ "_" ++ b = a' ++ "_" ++ b' ↔ a = a' ∧ b = b' := by
  constructor
  · intro same
    have texts : a.toList ++ '_' :: b.toList = a'.toList ++ '_' :: b'.toList := by
      simpa using congrArg String.toList same
    obtain ⟨before, behind⟩ := behind_mark plain plain' texts
    exact ⟨String.toList_inj.mp before, String.toList_inj.mp behind⟩
  · rintro ⟨rfl, rfl⟩
    rfl

/-! ## Static routes -/

/-- The part of a static route's key that stands for what the route matches. -/
def StaticRoute.label (r : StaticRoute) : String :=
  (r.destinationCidrBlock.or r.destinationPrefixList).getD ""

/-- The key that a written route is planned under. -/
def WrittenRoute.key (w : WrittenRoute) : String :=
  Key.gatewayRoute w.gateway.name w.table.name w.route.label

namespace UnitMap

variable {m : UnitMap}

theorem HasDestination.label_eq {r : StaticRoute} {d : Destination} (h : m.HasDestination r d) :
    d.label = r.label := by
  cases h with
  | cidr written noList => simp [StaticRoute.label, Destination.label, written]
  | prefixList noBlock named _ => simp [StaticRoute.label, Destination.label, noBlock, named]

theorem Follows.key_eq {w : WrittenRoute} {r : GatewayRoute} (h : m.Follows w r) :
    r.key = w.key := by
  rw [h.key, h.destination.label_eq, WrittenRoute.key]

theorem keys_of_follows {ws : List WrittenRoute} {routes : List GatewayRoute}
    (h : List.Forall₂ m.Follows ws routes) : routes.map (·.key) = ws.map WrittenRoute.key := by
  rw [← List.forall₂_eq_eq_eq, List.forall₂_map_left_iff, List.forall₂_map_right_iff]
  exact h.flip.imp fun _ _ follows => follows.key_eq

end UnitMap

namespace Topology

variable {t : Topology} {scope : Scope}

/-- What the labels of two routes have in common: the routes match the same, or one matches a
block and the other a prefix list that is named like the block. -/
def SharesLabel (r r' : StaticRoute) : Prop :=
  (r.destinationCidrBlock = r'.destinationCidrBlock ∧
      r.destinationPrefixList = r'.destinationPrefixList) ∨
    ∃ name, (r.destinationCidrBlock = some name ∧ r'.destinationPrefixList = some name) ∨
      (r.destinationPrefixList = some name ∧ r'.destinationCidrBlock = some name)

theorem label_eq_iff {g g' : Gateway} {table table' : GatewayRouteTable} {r r' : StaticRoute}
    (none : staticRouteFaults g table r = []) (none' : staticRouteFaults g' table' r' = []) :
    r.label = r'.label ↔ SharesLabel r r' := by
  unfold SharesLabel StaticRoute.label
  rcases oneDestination_of_faultless none with ⟨b, block, list⟩ | ⟨b, block, list⟩ <;>
    rcases oneDestination_of_faultless none' with ⟨b', block', list'⟩ | ⟨b', block', list'⟩ <;>
      simp [block, list, block', list', eq_comm]

/-- No route of a table is planned under the key of a route of another table. -/
def RoutesApart (t : Topology) (scope : Scope) : Prop :=
  (t.ownTables scope).Pairwise fun p q => ∀ r ∈ p.2.routes, ∀ r' ∈ q.2.routes,
    WrittenRoute.key ⟨p.1, p.2, r⟩ ≠ WrittenRoute.key ⟨q.1, q.2, r'⟩

theorem nodup_writtenRoutes_iff :
    ((t.writtenRoutes scope).map WrittenRoute.key).Nodup ↔
      (∀ p ∈ t.ownTables scope, (p.2.routes.map StaticRoute.label).Nodup) ∧
        t.RoutesApart scope := by
  have grouped : (t.writtenRoutes scope).map WrittenRoute.key =
      (t.ownTables scope).flatMap fun p =>
        (p.2.routes.map StaticRoute.label).map (Key.gatewayRoute p.1.name p.2.name) := by
    simp only [writtenRoutes, List.map_flatMap, List.map_map]
    rfl
  rw [grouped, nodup_grouped_iff ?inj]
  case inj =>
    intro p label label' same
    simpa [Key.gatewayRoute] using same
  simp only [RoutesApart, List.forall_mem_map]
  rfl

theorem Faultless.routeTable_names_nodup (h : t.Faultless) {g : Gateway}
    (defined : g ∈ t.network.gateways) : (g.routeTables.map (·.name)).Nodup :=
  ((gatewayFaults_eq_nil_iff.mp h.gateways).2 g defined).2.1

/-- The tables of a unit differ in their own names or in those of their gateways. -/
theorem Faultless.ownTables_names_nodup (h : t.Faultless) (scope : Scope) :
    ((t.ownTables scope).map fun p => (p.1.name, p.2.name)).Nodup := by
  have grouped : ((t.ownTables scope).map fun p => (p.1.name, p.2.name)) =
      (UnitMap.ownGateways t scope).flatMap fun g =>
        (g.routeTables.map (·.name)).map (Prod.mk g.name) := by
    simp only [ownTables, List.map_flatMap, List.map_map]
    rfl
  rw [grouped, nodup_grouped_iff fun _ _ _ => And.right ∘ Prod.mk.inj]
  refine ⟨fun g hg => h.routeTable_names_nodup (UnitMap.mem_ownGateways.mp hg).1, ?_⟩
  have names : (UnitMap.ownGateways t scope).Pairwise fun g g' =>
      (g.name, g.region) ≠ (g'.name, g'.region) :=
    (List.pairwise_map.mp h.gateway_names_nodup).filter _
  refine names.imp_of_mem fun {g g'} hg hg' differ table _ table' _ same => ?_
  have region := (UnitMap.mem_ownGateways.mp hg).2.2.trans (UnitMap.mem_ownGateways.mp hg').2.2.symm
  exact differ (Prod.ext (Prod.mk.inj same).1 region)

/-- Where the names of gateways and tables hold no underscore, tables share no keys. -/
theorem Faultless.routesApart (h : t.Faultless)
    (plain : ∀ p ∈ t.ownTables scope, '_' ∉ p.1.name.toList ∧ '_' ∉ p.2.name.toList) :
    t.RoutesApart scope := by
  have names := List.pairwise_map.mp (h.ownTables_names_nodup scope)
  refine names.imp_of_mem fun {p q} hp hq differ r _ r' _ same => ?_
  have parts := congrArg Key.parts same
  simp only [WrittenRoute.key, Key.gatewayRoute, Key.parts_joined,
    Key.parts_plain (plain p hp).1, Key.parts_plain (plain p hp).2,
    Key.parts_plain (plain q hq).1, Key.parts_plain (plain q hq).2, List.cons_append,
    List.nil_append, List.cons.injEq, String.toList_inj] at parts
  exact differ (Prod.ext parts.1 parts.2.1)

end Topology

/-! ## Rule associations -/

/-- A rule of the description, with the VPC that lists it. -/
@[ext]
structure ListedRule where
  vpc : String
  rule : String

namespace ListedRule

/-- The key that the association is planned under. -/
def key (account : String) (l : ListedRule) : String :=
  Key.resolverRuleAssociation l.rule l.vpc account

/-- The logical id that the association is planned under. -/
def logicalId (l : ListedRule) : String := l.vpc ++ "-" ++ l.rule ++ "-rule-association"

theorem key_eq_iff {account : String} {l l' : ListedRule} :
    l.key account = l'.key account ↔ l.rule ++ "_" ++ l.vpc = l'.rule ++ "_" ++ l'.vpc := by
  simp [key, Key.resolverRuleAssociation]

theorem logicalId_eq_iff {l l' : ListedRule} :
    l.logicalId = l'.logicalId ↔ l.vpc ++ "-" ++ l.rule = l'.vpc ++ "-" ++ l'.rule := by
  simp [logicalId]

end ListedRule

namespace Topology

variable {t : Topology} {scope : Scope}

/-- The VPCs that are deployed to a unit and list rules. -/
def listingVpcs (t : Topology) (scope : Scope) : List Vpc :=
  t.network.vpcs.filter fun v =>
    !v.resolverRules.isEmpty && v.region == scope.region &&
      (t.registry.vpcAccounts v).contains scope.account

/-- The rules that the VPCs of a unit list, in the order of the description. -/
def listedRules (t : Topology) (scope : Scope) : List ListedRule :=
  (t.listingVpcs scope).flatMap fun vpc => vpc.resolverRules.map (ListedRule.mk vpc.name)

/-- No rule of a VPC is planned under the key of a rule of another VPC. -/
def RulesApart (t : Topology) (scope : Scope) (key : ListedRule → String) : Prop :=
  (t.listingVpcs scope).Pairwise fun v w => ∀ rule ∈ v.resolverRules, ∀ rule' ∈ w.resolverRules,
    key ⟨v.name, rule⟩ ≠ key ⟨w.name, rule'⟩

theorem nodup_listedRules_iff {key : ListedRule → String}
    (inj : ∀ vpc, Function.Injective fun rule => key ⟨vpc, rule⟩) :
    ((t.listedRules scope).map key).Nodup ↔
      (∀ vpc ∈ t.listingVpcs scope, vpc.resolverRules.Nodup) ∧ t.RulesApart scope key := by
  have grouped : (t.listedRules scope).map key =
      (t.listingVpcs scope).flatMap fun vpc =>
        vpc.resolverRules.map fun rule => key ⟨vpc.name, rule⟩ := by
    simp only [listedRules, List.map_flatMap, List.map_map]
    rfl
  rw [grouped]
  exact nodup_grouped_iff fun vpc : Vpc => inj vpc.name

/-- VPCs share no keys that tell apart the rules that they list. -/
theorem Faultless.rulesApart (h : t.Faultless) {key : ListedRule → String}
    (separate : Separates key (t.listedRules scope)) : t.RulesApart scope key := by
  have listed {vpc : Vpc} (hv : vpc ∈ t.listingVpcs scope) {rule : String}
      (hr : rule ∈ vpc.resolverRules) : ⟨vpc.name, rule⟩ ∈ t.listedRules scope :=
    List.mem_flatMap.mpr ⟨vpc, hv, List.mem_map_of_mem hr⟩
  have names : (t.listingVpcs scope).Pairwise fun v w => v.name ≠ w.name :=
    (List.pairwise_map.mp h.vpc_names_nodup).filter _
  refine names.imp_of_mem fun {v w} hv hw differ rule hr rule' hr' same => differ ?_
  exact congrArg ListedRule.vpc (separate _ (listed hv hr) _ (listed hw hr') same)

/-- Where the names of VPCs hold no underscore, VPCs share no keys. -/
theorem Faultless.ruleKeys_apart (h : t.Faultless)
    (plain : ∀ l ∈ t.listedRules scope, '_' ∉ l.vpc.toList) :
    t.RulesApart scope (ListedRule.key scope.account) := by
  refine h.rulesApart fun l hl l' hl' same => ?_
  obtain ⟨rule, vpc⟩ := (underscored_eq_iff (plain l hl) (plain l' hl')).mp
    (ListedRule.key_eq_iff.mp same)
  exact ListedRule.ext vpc rule

/-- Where the names of rules hold no hyphen, VPCs share no logical ids. -/
theorem Faultless.ruleIds_apart (h : t.Faultless)
    (plain : ∀ l ∈ t.listedRules scope, '-' ∉ l.rule.toList) :
    t.RulesApart scope ListedRule.logicalId := by
  refine h.rulesApart fun l hl l' hl' same => ?_
  obtain ⟨vpc, rule⟩ := (hyphened_eq_iff (plain l hl) (plain l' hl')).mp
    (ListedRule.logicalId_eq_iff.mp same)
  exact ListedRule.ext vpc rule

end Topology

namespace RuleAssociation

variable {t : Topology} {scope : Scope} {backend : Backend} {s s' : Run}
  {as : List RuleAssociation}

/-- The rule of an association, and the VPC that lists it. -/
def listed (a : RuleAssociation) : ListedRule := ⟨a.vpc, a.rule⟩

/-- The associations of a unit are with the rules that its VPCs list. -/
theorem listed_of_build (run : (build (t.vantage scope backend) t).run s = .ok as s') :
    as.map listed = t.listedRules scope := by
  have names := congrArg (List.map fun p => ListedRule.mk p.1 p.2) (planVpcs_names run)
  simp only [List.map_map, List.map_flatMap, Function.comp_def] at names
  exact names

theorem keys_of_build (run : (build (t.vantage scope backend) t).run s = .ok as s') :
    as.map (·.key) = (t.listedRules scope).map (ListedRule.key scope.account) ∧
      as.map (·.logicalId) = (t.listedRules scope).map ListedRule.logicalId := by
  have named := planVpcs_named run
  rw [← listed_of_build run, List.map_map, List.map_map]
  exact ⟨List.map_congr_left fun a ha => (named a ha).key,
    List.map_congr_left fun a ha => (named a ha).logicalId⟩

end RuleAssociation

/-! ## The whole -/

/-- What the keys of a unit's static routes are, and when they are distinct. -/
structure Plan.RoutesKeyed (p : Plan) (t : Topology) (scope : Scope) : Prop where
  listed : p.gatewayRoutes.map (·.key) = (t.writtenRoutes scope).map WrittenRoute.key
  /-- No table repeats a label, and no two tables share a key. -/
  distinct_iff : (p.gatewayRoutes.map (·.key)).Nodup ↔
    (∀ x ∈ t.ownTables scope, (x.2.routes.map StaticRoute.label).Nodup) ∧ t.RoutesApart scope
  /-- A label is repeated where a destination is, or a block and the name of a prefix list. -/
  label_iff : ∀ w ∈ t.writtenRoutes scope, ∀ w' ∈ t.writtenRoutes scope,
    w.route.label = w'.route.label ↔ Topology.SharesLabel w.route w'.route
  plain : (∀ x ∈ t.ownTables scope, '_' ∉ x.1.name.toList ∧ '_' ∉ x.2.name.toList) →
    t.RoutesApart scope

/-- What the keys and logical ids of a unit's rule associations are, and when they are
distinct. -/
structure Plan.RulesKeyed (p : Plan) (t : Topology) (scope : Scope) : Prop where
  keys : p.ruleAssociations.map (·.key) =
    (t.listedRules scope).map (ListedRule.key scope.account)
  ids : p.ruleAssociations.map (·.logicalId) = (t.listedRules scope).map ListedRule.logicalId
  /-- No VPC lists a rule twice, and no two VPCs share a key. -/
  distinct_iff : (p.ruleAssociations.map (·.key)).Nodup ↔
    (∀ v ∈ t.listingVpcs scope, v.resolverRules.Nodup) ∧
      t.RulesApart scope (ListedRule.key scope.account)
  ids_distinct_iff : (p.ruleAssociations.map (·.logicalId)).Nodup ↔
    (∀ v ∈ t.listingVpcs scope, v.resolverRules.Nodup) ∧ t.RulesApart scope ListedRule.logicalId
  plain : (∀ l ∈ t.listedRules scope, '_' ∉ l.vpc.toList) →
    t.RulesApart scope (ListedRule.key scope.account)
  ids_plain : (∀ l ∈ t.listedRules scope, '-' ∉ l.rule.toList) →
    t.RulesApart scope ListedRule.logicalId

/-- In a valid topology the keys of a unit's static routes and rule associations are those of
its lists. They are distinct if and only if no route table repeats what its routes match, no
VPC repeats a rule, and joined names do not run together, which depends on the joints in the
names. -/
theorem listed_keys_distinct_iff {t : Topology} (valid : t.validate = .ok ()) {scope : Scope}
    {backend : Backend} {p : Plan} {s : Run} (run : t.plan scope backend = .ok p s) :
    p.RoutesKeyed t scope ∧ p.RulesKeyed t scope := by
  have faultless := Topology.faultless_of_validate valid
  obtain ⟨m, s₁, edges, routes, peering, s₂, rules, mapped, -, planned, -, associated, rfl⟩ :=
    Plan.build_ok run
  obtain ⟨ds, -, held⟩ := UnitMap.build_holds mapped
  have follow := UnitMap.follows_of_gatewayRoutes faultless planned
  rw [show m.scope = scope from held.scope] at follow
  have listed := UnitMap.keys_of_follows follow
  obtain ⟨keys, ids⟩ := RuleAssociation.keys_of_build associated
  refine ⟨⟨listed, ?_, ?_, faultless.routesApart⟩,
    ⟨keys, ids, ?_, ?_, faultless.ruleKeys_apart, faultless.ruleIds_apart⟩⟩
  · rw [show (Plan.assemble _ m edges routes peering rules).gatewayRoutes.map (·.key) = _ from
      listed]
    exact Topology.nodup_writtenRoutes_iff
  · exact fun w hw w' hw' => Topology.label_eq_iff (faultless.writtenRoute_faults hw)
      (faultless.writtenRoute_faults hw')
  · rw [show (Plan.assemble _ m edges routes peering rules).ruleAssociations.map (·.key) = _ from
      keys]
    refine Topology.nodup_listedRules_iff fun vpc rule rule' same => ?_
    simpa [ListedRule.key_eq_iff] using same
  · rw [show (Plan.assemble _ m edges routes peering rules).ruleAssociations.map (·.logicalId) = _
      from ids]
    refine Topology.nodup_listedRules_iff fun vpc rule rule' same => ?_
    simpa [ListedRule.logicalId_eq_iff] using same

/-- A gateway with a route that drops each of some blocks, and a VPC that lists some rules. -/
def Topology.sampleListing (blocks rules : List String) : Topology where
  settings := sample.settings
  accounts := sample.accounts
  network :=
    { gateways :=
        [{ name := "Core", account := "Network", region := "us-east-1"
           routeTables :=
             [{ name := "hub"
                routes := blocks.map fun block => ⟨some block, none, true, none⟩ }] }]
      vpcs :=
        [{ name := "Shared", region := "us-east-1", placement := .single "Network"
           cidrs := ["10.1.0.0/16"], ipamPool := none, resolverRules := rules }]
      resolverRules := [{ name := "corp", account := "Network", region := "us-east-1" }] }

/-- The unit plans two routes and an association, and their keys are distinct. -/
theorem listed_keys_distinct_iff_sample :
    (Topology.sampleListing ["10.0.0.0/8", "172.16.0.0/12"] ["corp"]).validate = .ok () ∧
    ∃ p s, (Topology.sampleListing ["10.0.0.0/8", "172.16.0.0/12"] ["corp"]).plan
        ⟨"Network", "us-east-1"⟩ (.fixed fun _ => .value "id") = .ok p s ∧
      p.gatewayRoutes.map (·.key) = ["Core_hub_10.0.0.0/8", "Core_hub_172.16.0.0/12"] ∧
      p.ruleAssociations.map (·.key) = ["corp_Shared_Network"] ∧
      p.RoutesKeyed (.sampleListing ["10.0.0.0/8", "172.16.0.0/12"] ["corp"])
        ⟨"Network", "us-east-1"⟩ ∧
      p.RulesKeyed (.sampleListing ["10.0.0.0/8", "172.16.0.0/12"] ["corp"])
        ⟨"Network", "us-east-1"⟩ := by
  have planned : (Plan.build ((Topology.sampleListing ["10.0.0.0/8", "172.16.0.0/12"]
      ["corp"]).vantage ⟨"Network", "us-east-1"⟩ (.fixed fun _ => .value "id"))
      (.sampleListing ["10.0.0.0/8", "172.16.0.0/12"] ["corp"])).comesTo (fun p => decide
        (p.gatewayRoutes.map (·.key) = ["Core_hub_10.0.0.0/8", "Core_hub_172.16.0.0/12"] ∧
          p.ruleAssociations.map (·.key) = ["corp_Shared_Network"])) = true := by
    decide +kernel
  obtain ⟨p, s, run, check⟩ := Lookup.exists_of_comesTo planned
  obtain ⟨routes, rules⟩ := of_decide_eq_true check
  have valid : (Topology.sampleListing ["10.0.0.0/8", "172.16.0.0/12"] ["corp"]).validate =
      .ok () := rfl
  exact ⟨valid, p, s, run, routes, rules, listed_keys_distinct_iff valid run⟩

/-- Validation accepts a table that writes a route twice and a VPC that lists a rule twice, and
the unit plans both as they are listed. -/
theorem listed_keys_repeat :
    (Topology.sampleListing ["10.0.0.0/8", "10.0.0.0/8"] ["corp", "corp"]).validate = .ok () ∧
    ∃ p s, (Topology.sampleListing ["10.0.0.0/8", "10.0.0.0/8"] ["corp", "corp"]).plan
        ⟨"Network", "us-east-1"⟩ (.fixed fun _ => .value "id") = .ok p s ∧
      ¬(p.gatewayRoutes.map (·.key)).Nodup ∧ ¬(p.ruleAssociations.map (·.key)).Nodup ∧
      ¬(p.ruleAssociations.map (·.logicalId)).Nodup ∧
      p.gatewayRoutes.map (fun r => (r.routeTableId, r.destination)) =
        [("id", .cidr "10.0.0.0/8"), ("id", .cidr "10.0.0.0/8")] ∧
      p.ruleAssociations.map (fun a => (a.ruleId, a.vpcId)) = [("id", "id"), ("id", "id")] := by
  have planned : (Plan.build ((Topology.sampleListing ["10.0.0.0/8", "10.0.0.0/8"]
      ["corp", "corp"]).vantage ⟨"Network", "us-east-1"⟩ (.fixed fun _ => .value "id"))
      (.sampleListing ["10.0.0.0/8", "10.0.0.0/8"] ["corp", "corp"])).comesTo (fun p => decide
        (¬(p.gatewayRoutes.map (·.key)).Nodup ∧ ¬(p.ruleAssociations.map (·.key)).Nodup ∧
          ¬(p.ruleAssociations.map (·.logicalId)).Nodup ∧
          p.gatewayRoutes.map (fun r => (r.routeTableId, r.destination)) =
            [("id", .cidr "10.0.0.0/8"), ("id", .cidr "10.0.0.0/8")] ∧
          p.ruleAssociations.map (fun a => (a.ruleId, a.vpcId)) =
            [("id", "id"), ("id", "id")])) = true := by
    decide +kernel
  obtain ⟨p, s, run, check⟩ := Lookup.exists_of_comesTo planned
  exact ⟨rfl, p, s, run, of_decide_eq_true check⟩

end Interlink
