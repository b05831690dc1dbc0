import Interlink.Proofs.Misconfigurations

/-!
# Why a unit cannot be planned

The stages after the map look names up once more: peerings their VPCs and the
accounts of these, routes their prefix lists, and VPCs their rules. In a valid
topology all of them are found, but for the prefix lists. So what a unit can find
wrong is what `Topology.Remaining` lists (`misconfiguration_remains`), and all of
that does occur (`remainingFaults`).
-/

namespace Interlink

open UnitMap

/-! ## Peerings -/

namespace Topology

variable {t : Topology} {scope : Scope} {pathPrefix : String}

/-- A connection is one of a peering that is described. -/
def Declares (t : Topology) (c : Connection) : Prop :=
  ∃ p ∈ t.network.vpcPeerings, p.name = c.name ∧ ∀ side, ∃ v, t.EndOf p (c.endOn side) v

theorem peeringEnd_ok {accounts : Registry} {v : Vpc} {account : String} {e : PeeringEnd}
    (h : peeringEnd accounts scope v account = .ok e) :
    e.vpc = v.name ∧ e.scope = ⟨account, v.region⟩ ∧
      accounts.accountId? account = some e.accountId := by
  unfold peeringEnd at h
  split at h
  · next id found =>
    cases h
    exact ⟨rfl, rfl, found⟩
  · exact nomatch h

theorem declares_of_connectionsOf {cs : List Connection}
    (h : t.connectionsOf t.registry scope pathPrefix = .ok cs) : ∀ c ∈ cs, t.Declares c := by
  intro c hc
  obtain ⟨p, hp, x, y, a, b, account, other, near, far, names, first, second, deployed,
    deployed', nearOk, farOk, rfl⟩ := connectionsOf_made h hc
  have nameA := (vpc?_some first).2
  have nameB := (vpc?_some second).2
  obtain ⟨nearVpc, nearScope, -⟩ := peeringEnd_ok nearOk
  obtain ⟨farVpc, farScope, -⟩ := peeringEnd_ok farOk
  refine ⟨p, hp, rfl, fun side => ?_⟩
  cases side with
  | requester =>
    refine ⟨a, by simp [names, nameA], ?_, ?_, ?_⟩
    · show t.vpc? near.vpc = some a
      rw [nearVpc, nameA, first]
    · show near.scope.region = a.region
      rw [nearScope]
    · show near.scope.account ∈ _
      rwa [nearScope]
  | accepter =>
    refine ⟨b, by simp [names, nameB], ?_, ?_, ?_⟩
    · show t.vpc? far.vpc = some b
      rw [farVpc, nameB, second]
    · show far.scope.region = b.region
      rw [farScope]
    · show far.scope.account ∈ _
      rwa [farScope]

theorem Faultless.peeringEnd_eq_ok (faultless : t.Faultless) {v : Vpc}
    (hv : v ∈ t.network.vpcs) {account : String} (deployed : account ∈ t.registry.vpcAccounts v)
    (scope : Scope) : ∃ e, peeringEnd t.registry scope v account = .ok e := by
  have known := accountId?_isSome.mpr (faultless.hasAccount_of_deployed hv deployed)
  obtain ⟨id, found⟩ := Option.isSome_iff_exists.mp known
  exact ⟨_, by rw [peeringEnd, found]⟩

/-- The connections of a valid topology can be made. -/
theorem Faultless.connectionsOf_ne_error (faultless : t.Faultless) {e : PlanError} :
    t.connectionsOf t.registry scope pathPrefix ≠ .error e := by
  intro h
  unfold connectionsOf at h
  cases made : t.connections t.registry scope pathPrefix with
  | ok cs => simp [made, Except.map] at h
  | error e' =>
    obtain ⟨p, hp, failed⟩ := List.mem_flatMap.mp (collectOk_eq_error made)
    obtain ⟨a, b, names, foundA, foundB⟩ := faultless.peering_vpcs hp
    have requireA : t.requireVpc a.name scope = .ok a := by rw [requireVpc, foundA]
    have requireB : t.requireVpc b.name scope = .ok b := by rw [requireVpc, foundB]
    unfold peeringResults at failed
    simp only [names, requireA, requireB] at failed
    obtain ⟨account, deployed, ofAccount⟩ := List.mem_flatMap.mp failed
    obtain ⟨near, nearOk⟩ := faultless.peeringEnd_eq_ok (vpc?_some foundA).1 deployed scope
    rw [nearOk] at ofAccount
    obtain ⟨other, deployed', ofPair⟩ := List.mem_map.mp ofAccount
    obtain ⟨far, farOk⟩ := faultless.peeringEnd_eq_ok (vpc?_some foundB).1 deployed' scope
    simp [farOk, Except.map] at ofPair

end Topology

namespace PeeringPlan

variable {α : Type} {P : PlanError → Prop} {step : Connection → Lookup α}

theorem failsOnly_forEach : ∀ {cs : List Connection}, (∀ c ∈ cs, FailsOnly P (step c)) →
    FailsOnly P (forEach step cs)
  | [], _ => failsOnly_pure
  | c :: rest, h => by
    refine (h c List.mem_cons_self).bind fun _ _ _ _ => ?_
    exact (failsOnly_forEach fun c' hc' => h c' (List.mem_cons_of_mem _ hc')).bind
      fun _ _ _ _ => failsOnly_pure

end PeeringPlan

section Peerings

variable {t : Topology} {scope : Scope} {backend : Backend} (faultless : t.Faultless)
include faultless

theorem Topology.EndOf.member {p : VpcPeering} {e : PeeringEnd} {vpc : Vpc}
    (own : t.EndOf p e vpc) : (t.vantage scope backend).Member e.scope.account :=
  Topology.member_of_hasAccount
    (faultless.hasAccount_of_deployed (Topology.vpc?_some own.found).1 own.deployed)

/-- The destination of a route is found unless its prefix list is not deployed
where the route is. -/
theorem Vantage.destination_fails {p : VpcPeering} {own peer : PeeringEnd} {vpc vpc' : Vpc}
    {table : String} {r : VpcRoute} (peering : p ∈ t.network.vpcPeerings)
    (hown : t.EndOf p own vpc) (hpeer : t.EndOf p peer vpc')
    (listed : (table, r) ∈ vpc.routesOver p.name) :
    FailsOnly (t.PlanFails scope) ((t.vantage scope backend).destination t r own peer) := by
  unfold destination
  split
  · exact failsOnly_pure
  · exact failsOnly_pure
  · next name named =>
    dsimp only
    split
    · exact ((learn_fails (hown.member faultless)).mono fun _ h => .lookup h).bind
        fun _ _ _ _ => failsOnly_pure
    · next undeployed =>
      exact failsOnly_throw (.misconfigured
        (.prefixListNotAtRouteTable peering hown listed named (Bool.eq_false_iff.mpr undeployed)))
  · have required : t.requireVpc peer.vpc own.scope = .ok vpc' := by
      rw [Topology.requireVpc, hpeer.found]
    rw [required]
    refine failsOnly_pure.bind fun found _ _ _ => ?_
    split
    · exact failsOnly_pure
    · exact ((learn_fails (hpeer.member faultless)).mono fun _ h => .lookup h).bind
        fun _ _ _ _ => failsOnly_pure

theorem Vantage.planRoute_fails {p : VpcPeering} {c : Connection} {side : PeeringSide}
    {vpc vpc' : Vpc} {table : String} {r : VpcRoute} (peering : p ∈ t.network.vpcPeerings)
    (hown : t.EndOf p (c.endOn side) vpc) (hpeer : t.EndOf p (c.endOpposite side) vpc')
    (listed : (table, r) ∈ vpc.routesOver p.name) :
    FailsOnly (t.PlanFails scope) ((t.vantage scope backend).planRoute t c side table r) := by
  unfold planRoute
  refine FailsOnly.bind (fun _ _ _ run => nomatch run) fun got _ _ _ => ?_
  split
  · exact failsOnly_pure
  · refine FailsOnly.bind (fun _ _ _ run => nomatch run) fun _ _ _ _ => ?_
    refine ((learn_fails (hown.member faultless)).mono fun _ h => .lookup h).bind
      fun _ _ _ _ => ?_
    exact (destination_fails faultless peering hown hpeer listed).bind
      fun _ _ _ _ => failsOnly_pure

theorem Vantage.planRoutes_fails {p : VpcPeering} {c : Connection} {side : PeeringSide}
    {vpc vpc' : Vpc} (peering : p ∈ t.network.vpcPeerings)
    (hown : t.EndOf p (c.endOn side) vpc) (hpeer : t.EndOf p (c.endOpposite side) vpc') :
    ∀ {rs : List (String × VpcRoute)}, rs ⊆ vpc.routesOver p.name →
      FailsOnly (t.PlanFails scope) ((t.vantage scope backend).planRoutes t c side rs)
  | [], _ => failsOnly_pure
  | (table, r) :: rest, listed => by
    obtain ⟨first, others⟩ := List.cons_subset.mp listed
    refine (planRoute_fails faultless peering hown hpeer first).bind fun _ _ _ _ => ?_
    exact (planRoutes_fails peering hown hpeer others).bind fun _ _ _ _ => failsOnly_pure

/-- A side of a connection that is described is planned unless a lookup fails or
a prefix list is not deployed where a route is. -/
theorem Vantage.planSide_fails {c : Connection} (declared : t.Declares c) (side : PeeringSide) :
    FailsOnly (t.PlanFails scope) ((t.vantage scope backend).planSide t side c) := by
  obtain ⟨p, peering, name, ends⟩ := declared
  obtain ⟨vpc, hown⟩ := ends side
  obtain ⟨vpc', hpeer⟩ : ∃ vpc', t.EndOf p (c.endOpposite side) vpc' := by
    cases side with
    | requester => exact ends .accepter
    | accepter => exact ends .requester
  unfold planSide
  split
  · exact failsOnly_pure
  · have required : t.requireVpc (c.endOn side).vpc scope = .ok vpc := by
      rw [Topology.requireVpc, hown.found]
    rw [show (t.vantage scope backend).caller = scope from rfl, required]
    refine failsOnly_pure.bind fun found s s' run => ?_
    obtain ⟨rfl, -⟩ := run_pure_ok.mp run
    rw [← name]
    exact (planRoutes_fails faultless peering hown hpeer (List.Subset.refl _)).bind
      fun _ _ _ _ => failsOnly_pure

namespace PeeringPlan

omit faultless in
/-- A side that is planned leaves the connection that it is a side of. -/
theorem declares_of_planSide {v : Vantage} {side : PeeringSide} {c : Connection}
    {r : Connection × RouteBatch} {s s' : Run} (declared : t.Declares c)
    (run : (v.planSide t side c).run s = .ok r s') : t.Declares r.1 := by
  obtain ⟨-, rfl, -⟩ | ⟨-, batch, -, rfl⟩ := Vantage.planSide_ok run
  · exact declared
  · exact declared

theorem planSides_fails {cs : List Connection} (declared : ∀ c ∈ cs, t.Declares c)
    (side : PeeringSide) :
    FailsOnly (t.PlanFails scope) (planSides (t.vantage scope backend) t side cs) :=
  (failsOnly_forEach fun c hc =>
    Vantage.planSide_fails faultless (declared c hc) side).bind fun _ _ _ _ => failsOnly_pure

omit faultless in
theorem declares_of_planSides {v : Vantage} {side : PeeringSide} {cs : List Connection}
    {r : List Connection × RouteBatch} {s s' : Run} (declared : ∀ c ∈ cs, t.Declares c)
    (run : (planSides v t side cs).run s = .ok r s') : ∀ c ∈ r.1, t.Declares c := by
  obtain ⟨results, s₁, planned, last⟩ := run_bind_ok.mp run
  obtain ⟨rfl, -⟩ := run_pure_ok.mp last
  intro c hc
  obtain ⟨result, hr, rfl⟩ := List.mem_map.mp hc
  obtain ⟨c', hc', s₁, s₂, one⟩ := run_forEach_ok planned result hr
  exact declares_of_planSide (declared c' hc') one

omit faultless in
theorem declares_of_resolveVpcs {v : Vantage} {cs cs' : List Connection} {s s' : Run}
    (declared : ∀ c ∈ cs, t.Declares c)
    (run : (forEach (resolveVpcs v) cs).run s = .ok cs' s') : ∀ c ∈ cs', t.Declares c := by
  intro c hc
  obtain ⟨c', hc', s₁, s₂, one⟩ := run_forEach_ok run c hc
  obtain ⟨requester, s₃, -, one⟩ := run_bind_ok.mp one
  obtain ⟨accepter, s₄, -, last⟩ := run_bind_ok.mp one
  obtain ⟨rfl, -⟩ := run_pure_ok.mp last
  exact declared c' hc'

theorem resolveVpcs_fails {c : Connection} (declared : t.Declares c) :
    FailsOnly (t.PlanFails scope) (resolveVpcs (t.vantage scope backend) c) := by
  obtain ⟨p, -, -, ends⟩ := declared
  obtain ⟨vpc, requester⟩ := ends .requester
  obtain ⟨vpc', accepter⟩ := ends .accepter
  refine ((Vantage.learn_fails (requester.member faultless)).mono fun _ h => .lookup h).bind
    fun _ _ _ _ => ?_
  exact ((Vantage.learn_fails (accepter.member faultless)).mono fun _ h => .lookup h).bind
    fun _ _ _ _ => failsOnly_pure

/-- Peerings are planned unless a lookup fails or a prefix list is not deployed
where a route is. -/
theorem build_fails :
    FailsOnly (t.PlanFails scope) (build (t.vantage scope backend) t) := by
  unfold build
  refine (failsOnly_ofExcept fun e h => absurd h faultless.connectionsOf_ne_error).bind
    fun cs _ _ made => ?_
  have declared := Topology.declares_of_connectionsOf (Lookup.run_ofExcept_ok.mp made).1
  refine (failsOnly_forEach fun c hc => resolveVpcs_fails faultless (declared c hc)).bind
    fun cs₁ _ _ resolved => ?_
  have declared₁ := declares_of_resolveVpcs declared resolved
  refine (planSides_fails faultless declared₁ .requester).bind fun (cs₂, _) _ _ requested => ?_
  have declared₂ := declares_of_planSides declared₁ requested
  exact (planSides_fails faultless declared₂ .accepter).bind fun _ _ _ _ => failsOnly_pure

end PeeringPlan

/-! ## Associations of rules -/

namespace RuleAssociation

theorem planRules_fails {vpc : Vpc} {vpcId : String} (hv : vpc ∈ t.network.vpcs) :
    ∀ {names : List String}, names ⊆ vpc.resolverRules →
      FailsOnly PlanError.OfLookup (planRules (t.vantage scope backend) t vpc vpcId names)
  | [], _ => failsOnly_pure
  | name :: rest, listed => by
    obtain ⟨first, others⟩ := List.cons_subset.mp listed
    obtain ⟨rule, found, region⟩ := faultless.listed_rule hv first
    have required : requireRule t (t.vantage scope backend).caller vpc name = .ok rule := by
      rw [requireRule, found]
      exact if_pos region
    have member : (t.vantage scope backend).Member rule.account :=
      Topology.member_of_hasAccount (faultless.rule_account (Topology.resolverRule?_some found).1)
    have one : FailsOnly PlanError.OfLookup
        (plan (t.vantage scope backend) t vpc vpcId name) := by
      unfold plan
      rw [required]
      refine failsOnly_pure.bind fun rule' s s' run => ?_
      obtain ⟨rfl, -⟩ := run_pure_ok.mp run
      exact (Vantage.learn_fails member).bind fun _ _ _ _ => failsOnly_pure
    exact one.bind fun _ _ _ _ =>
      (planRules_fails hv others).bind fun _ _ _ _ => failsOnly_pure

/-- Rules are associated unless a lookup fails. -/
theorem build_fails (member : t.hasAccount scope.account = true) :
    FailsOnly PlanError.OfLookup (build (t.vantage scope backend) t) := by
  have all : ∀ {vs : List Vpc}, vs ⊆ t.network.vpcs →
      FailsOnly PlanError.OfLookup (planVpcs (t.vantage scope backend) t vs) := by
    intro vs
    induction vs with
    | nil => exact fun _ => failsOnly_pure
    | cons vpc rest ih =>
      intro defined
      obtain ⟨first, others⟩ := List.cons_subset.mp defined
      refine (Vantage.learn_fails (Topology.member_of_hasAccount member)).bind
        fun _ _ _ _ => ?_
      refine (planRules_fails faultless first (List.Subset.refl _)).bind fun _ _ _ _ => ?_
      exact (ih others).bind fun _ _ _ _ => failsOnly_pure
  exact all (List.filter_subset_self ..)

end RuleAssociation

end Peerings

/-! ## The whole -/

/-- A unit of a valid topology is planned unless a lookup fails, an edge is asked
for twice, or the topology has a fault that remains. -/
theorem Plan.build_fails {t : Topology} (faultless : t.Faultless) {scope : Scope}
    {backend : Backend} (member : t.hasAccount scope.account = true) :
    FailsOnly (t.PlanFails scope) (Plan.build (t.vantage scope backend) t) := by
  unfold Plan.build
  obtain ⟨id, known⟩ := Vantage.requireId_of_member (Topology.accountId?_isSome.mpr member) scope
  rw [show Vantage.requireId (t.vantage scope backend).accounts
    (t.vantage scope backend).caller.account (t.vantage scope backend).caller = .ok id from known]
  refine failsOnly_pure.bind fun _ _ _ _ => ?_
  refine ((UnitMap.build_fails faultless member).mono fun _ h => .of_map h).bind
    fun m s s' mapped => ?_
  obtain ⟨ds, described, held⟩ := build_holds mapped
  have served := UnitMap.served_of_holds held
    (fun d hd => faultless.grounded described hd) fun d hd => faultless.linked described hd
  refine (failsOnly_ofExcept fun e h => ?_).bind fun _ _ _ _ => ?_
  · have mine : m.scope = scope := held.scope
    refine edgesOf_error (fun key => ?_) (fun kind x hx table named e none => ?_) h
    · rw [mine]
      exact .repeatedEdge
    · exact absurd none ((served x hx).edge named)
  · refine (failsOnly_ofExcept fun e h => UnitMap.gatewayRoutes_fails faultless mapped h).bind
      fun _ _ _ _ => ?_
    refine (PeeringPlan.build_fails faultless).bind fun _ _ _ _ => ?_
    refine ((RuleAssociation.build_fails faultless member).mono fun _ h => .lookup h).bind
      fun _ _ _ _ => ?_
    exact FailsOnly.bind (fun _ _ _ run => nomatch run) fun _ _ _ _ => failsOnly_pure

/-- The faults that validation precludes. -/
def Misconfiguration.isPrecluded : Misconfiguration → Bool
  | .unknownAccount _ | .undefinedGateway .. | .unresolvedAttachment _
  | .undefinedRouteTable .. | .notTwoVpcs _ | .undefinedVpc _ | .undefinedRule _
  | .ruleInOtherRegion .. => true
  | _ => false

theorem Topology.Remaining.not_precluded {t : Topology} {scope place : Scope}
    {fault : Misconfiguration} (h : t.Remaining scope fault place) : fault.isPrecluded = false := by
  cases h with
  | unmappable unmappable =>
    cases unmappable with
    | misplaced misplaced =>
      cases misplaced
      rfl
    | sharedKey => rfl
  | prefixListNotAtGateway => rfl
  | noRouteTarget => rfl
  | severalRouteTargets => rfl
  | prefixListNotAtRouteTable => rfl

/-- If a unit of a valid topology, whose account is a member, finds the topology
misconfigured, then the fault is one that remains, with its cause. It is none of
those that validation precludes. -/
theorem misconfiguration_remains {t : Topology} (valid : t.validate = .ok ()) {scope : Scope}
    (member : t.hasAccount scope.account = true) {backend : Backend} {s : Run}
    {fault : Misconfiguration} {place : Scope}
    (planned : t.plan scope backend = .error (.misconfigured fault place) s) :
    t.Remaining scope fault place ∧ fault.isPrecluded = false := by
  have fails := Plan.build_fails (Topology.faultless_of_validate valid) member planned
  cases fails with
  | lookup ofLookup => exact nomatch ofLookup
  | misconfigured remaining => exact ⟨remaining, remaining.not_precluded⟩

/-- The sample with a static route in the gateway's first table, and the attached
VPC in both accounts. -/
def Topology.sampleRouted (r : StaticRoute) : Topology where
  settings := sample.settings
  accounts := sample.accounts
  network :=
    { gateways :=
        [{ name := "Core", account := "Network", region := "us-east-1"
           routeTables := [{ name := "hub", routes := [r] }] }]
      vpcs :=
        [{ name := "App", region := "us-east-1"
           placement := .targets { accounts := ["Network", "Workload"] }
           cidrs := ["10.0.0.0/16"], ipamPool := none
           attachments := [{ name := "App-Core", gateway := ⟨"Core", "Network"⟩ }] }] }

/-- A static route leads to the VPC, which is attached twice. -/
def Topology.sampleAmbiguous : Topology :=
  sampleRouted ⟨some "10.0.0.0/8", none, false, some ⟨.vpc, "App", none⟩⟩

/-- Where a static route leads to a VPC in two accounts, the owner of the gateway
finds both. -/
theorem misconfiguration_remains_sample :
    Topology.sampleAmbiguous.validate = .ok () ∧
      Topology.sampleAmbiguous.hasAccount "Network" = true ∧
      ∃ s, Topology.sampleAmbiguous.plan ⟨"Network", "us-east-1"⟩ (.fixed fun _ => .value "id") =
          .error (.misconfigured (.severalRouteTargets .vpc "App") ⟨"Network", "us-east-1"⟩) s ∧
        Topology.sampleAmbiguous.Remaining ⟨"Network", "us-east-1"⟩
          (.severalRouteTargets .vpc "App") ⟨"Network", "us-east-1"⟩ := by
  obtain ⟨s, planned⟩ : ∃ s, Topology.sampleAmbiguous.plan ⟨"Network", "us-east-1"⟩
        (.fixed fun _ => .value "id") =
      .error (.misconfigured (.severalRouteTargets .vpc "App") ⟨"Network", "us-east-1"⟩) s :=
    Lookup.exists_of_failsWith (by decide +kernel)
  exact ⟨rfl, rfl, s, planned, (misconfiguration_remains rfl rfl planned).1⟩

/-! ## All of them occur -/

/-- The sample with a prefix list for the route of the attached VPC. -/
def Topology.sampleListed : Topology where
  settings := sample.settings
  accounts := sample.accounts
  network :=
    { sample.network with
      vpcs := sample.network.vpcs.map fun vpc =>
        { vpc with
          routeTables := vpc.routeTables.map fun table =>
            { table with
              routes := table.routes.map fun r =>
                { r with destination := none, destinationPrefixList := some "corp" } } } }

/-- A unit with the fault that it finds. -/
structure FaultyUnit where
  topology : Topology
  scope : Scope
  fault : Misconfiguration

/-- The topology is valid, every question is answered, and the unit finds the
fault. -/
def FaultyUnit.occurs (u : FaultyUnit) : Bool :=
  u.topology.validate.isOk &&
    (Plan.build (u.topology.vantage u.scope (.fixed fun _ => .value "id")) u.topology).failsWith
      (.misconfigured u.fault u.scope)

/-- A unit for every sort of fault that remains. -/
def remainingFaults : List FaultyUnit :=
  [⟨.sampleMisplaced, ⟨"Network", "us-east-1"⟩,
      .gatewayInOtherRegion "Core" "Network" "App" "us-east-1" "eu-west-1"⟩,
    ⟨.sampleAttachedTwice, ⟨"Workload", "us-east-1"⟩, .sharedAttachmentKey "Core_Workload_App"⟩,
    ⟨.sampleRouted ⟨none, some "corp", true, none⟩, ⟨"Network", "us-east-1"⟩,
      .prefixListNotAtGateway "corp"⟩,
    ⟨.sampleRouted ⟨some "10.0.0.0/8", none, false, some ⟨.vpn, "Office", none⟩⟩,
      ⟨"Network", "us-east-1"⟩, .noRouteTarget .vpn "Office" "Core"⟩,
    ⟨.sampleAmbiguous, ⟨"Network", "us-east-1"⟩, .severalRouteTargets .vpc "App"⟩,
    ⟨.sampleListed, ⟨"Workload", "us-east-1"⟩, .prefixListNotAtRouteTable "corp"⟩]

/-- All of them occur. -/
example : ∀ u ∈ remainingFaults, u.occurs = true := by decide +kernel

end Interlink
