import Interlink.Proofs.PlanFailures
import Mathlib.Data.List.ProdSigma

/-!
# Which connections there are, and which unit plans each

A peering is described once and stands for a connection of every pair of accounts
that its two VPCs are deployed to. In a valid topology all of them can be made,
by every unit alike (`Topology.Expansion`): the VPCs are defined, the accounts
are members, and no VPC is deployed to an account twice, however its accounts are
chosen. A unit plans the connections that it is the requester's scope of. So
every connection has one unit that plans it.

A plan carries its connections on, through the ids of their VPCs and the routes
of either side. `Connection.described` forgets this, and what is left are the
connections as they were made.
-/

namespace Interlink

/-! ## The accounts of a VPC -/

namespace Registry

theorem nodup_firstOccurrences (names : List String) : (firstOccurrences names).Nodup := by
  rw [firstOccurrences_eq]
  exact nodup_firsts_id

/-- A VPC is deployed to an account once. -/
theorem nodup_vpcAccounts (r : Registry) (v : Vpc) : (r.vpcAccounts v).Nodup := by
  unfold vpcAccounts placed
  cases v.placement with
  | single account => exact List.nodup_singleton account
  | targets choice => exact nodup_firstOccurrences _

/-- The accounts of two VPCs, paired: the first VPC's accounts in their order, and
with each of them those of the second. -/
def accountPairs (r : Registry) (requester accepter : Vpc) : List (String × String) :=
  r.vpcAccounts requester ×ˢ r.vpcAccounts accepter

theorem nodup_accountPairs (r : Registry) (requester accepter : Vpc) :
    (r.accountPairs requester accepter).Nodup :=
  (r.nodup_vpcAccounts requester).product (r.nodup_vpcAccounts accepter)

/-- A VPC in an account, whose id is looked up. -/
def endIn (r : Registry) (v : Vpc) (account : String) : PeeringEnd :=
  ⟨v.name, ⟨account, v.region⟩, (r.accountId? account).getD "", v.placement.isTemplated⟩

end Registry

namespace Topology

variable {t : Topology} {scope : Scope} {pathPrefix : String} {p : VpcPeering}
  {requester accepter v : Vpc}

/-! ## One peering -/

/-- An end is a VPC in an account, with the account's id. -/
structure Stands (t : Topology) (v : Vpc) (account : String) (e : PeeringEnd) : Prop where
  vpc : e.vpc = v.name
  scope : e.scope = ⟨account, v.region⟩
  accountId : t.registry.accountId? account = some e.accountId
  templated : e.templated = v.placement.isTemplated

/-- A connection of a peering connects the two VPCs in a pair of accounts. It is
classified, and nothing else is done for it. -/
structure Connects (t : Topology) (pathPrefix : String) (p : VpcPeering) (near far : Vpc)
    (accounts : String × String) (c : Connection) : Prop where
  name : c.name = p.name
  key : c.key = Key.peering p.name c.requester.distinction c.accepter.distinction
  requester : t.Stands near accounts.1 c.requester
  accepter : t.Stands far accounts.2 c.accepter
  crossAccount : c.crossAccount = t.registry.spansAccounts near far
  /-- There is a role if and only if the accounts differ. -/
  role : c.peerRoleName = if accounts.1 = accounts.2 then none
    else some (RolePurpose.peeringRoutes.roleName pathPrefix far.region)
  tags : c.tags = p.tags
  stage : c.stage = .classified
  unresolved : c.requesterVpcId = none ∧ c.accepterVpcId = none

/-- In an account of the organization a VPC makes an end, whoever looks at it. -/
theorem Faultless.stands (faultless : t.Faultless) (hv : v ∈ t.network.vpcs) {account : String}
    (deployed : account ∈ t.registry.vpcAccounts v) :
    t.Stands v account (t.registry.endIn v account) ∧
      ∀ scope, peeringEnd t.registry scope v account = .ok (t.registry.endIn v account) := by
  have known := accountId?_isSome.mpr (faultless.hasAccount_of_deployed hv deployed)
  obtain ⟨id, found⟩ := Option.isSome_iff_exists.mp known
  refine ⟨⟨rfl, rfl, ?_, rfl⟩, fun scope => ?_⟩
  · simp [Registry.endIn, found]
  · simp [peeringEnd, Registry.endIn, found]

/-- The connections of two VPCs can be made if all the ends can. -/
theorem pairResults_eq {accounts : Registry}
    (near : ∀ account ∈ accounts.vpcAccounts requester,
      peeringEnd accounts scope requester account = .ok (accounts.endIn requester account))
    (far : ∀ account ∈ accounts.vpcAccounts accepter,
      peeringEnd accounts scope accepter account = .ok (accounts.endIn accepter account)) :
    pairResults accounts scope pathPrefix p requester accepter =
      (accounts.accountPairs requester accepter).map fun pair =>
        .ok (connection p pathPrefix (accounts.spansAccounts requester accepter)
          (accounts.endIn requester pair.1) (accounts.endIn accepter pair.2)) := by
  show _ = ((accounts.vpcAccounts requester).flatMap fun x =>
    (accounts.vpcAccounts accepter).map (Prod.mk x)).map _
  unfold pairResults
  dsimp only
  rw [List.map_flatMap]
  apply List.flatMap_congr
  intro x hx
  rw [near x hx, List.map_map]
  apply List.map_congr_left
  intro y hy
  rw [far y hy]
  rfl

/-- A peering of a valid topology has a connection for every pair of accounts. -/
theorem Faultless.peeringResults_eq (faultless : t.Faultless) (hp : p ∈ t.network.vpcPeerings)
    (pathPrefix : String) :
    ∃ requester accepter cs, p.vpcs = [requester.name, accepter.name] ∧
      t.vpc? requester.name = some requester ∧ t.vpc? accepter.name = some accepter ∧
      List.Forall₂ (t.Connects pathPrefix p requester accepter)
        (t.registry.accountPairs requester accepter) cs ∧ (∀ c ∈ cs, c.name = p.name) ∧
      ∀ scope, t.peeringResults t.registry scope pathPrefix p = cs.map .ok := by
  obtain ⟨a, b, names, foundA, foundB⟩ := faultless.peering_vpcs hp
  have near {x : String} (hx : x ∈ t.registry.vpcAccounts a) :=
    faultless.stands (vpc?_some foundA).1 hx
  have far {y : String} (hy : y ∈ t.registry.vpcAccounts b) :=
    faultless.stands (vpc?_some foundB).1 hy
  refine ⟨a, b, (t.registry.accountPairs a b).map fun pair =>
    connection p pathPrefix (t.registry.spansAccounts a b) (t.registry.endIn a pair.1)
      (t.registry.endIn b pair.2), names, foundA, foundB, ?_, ?_, fun scope => ?_⟩
  · rw [List.forall₂_map_right_iff, List.forall₂_same]
    intro pair hpair
    obtain ⟨hx, hy⟩ := List.mem_product.mp hpair
    exact ⟨rfl, rfl, (near hx).1, (far hy).1, rfl, rfl, rfl, rfl, rfl, rfl⟩
  · intro c hc
    obtain ⟨pair, -, rfl⟩ := List.mem_map.mp hc
    rfl
  · have requireA : t.requireVpc a.name scope = .ok a := by rw [requireVpc, foundA]
    have requireB : t.requireVpc b.name scope = .ok b := by rw [requireVpc, foundB]
    unfold peeringResults
    simp only [names, requireA, requireB]
    rw [pairResults_eq (fun x hx => (near hx).2 scope) fun y hy => (far hy).2 scope, List.map_map]
    rfl

/-! ## All peerings -/

/-- Names of peerings do not repeat. -/
theorem Faultless.peering_names_nodup (faultless : t.Faultless) :
    (t.network.vpcPeerings.map (·.name)).Nodup :=
  (peeringFaults_eq_nil_iff.mp faultless.peerings).1

/-- The part of a list that comes of one element is found by the element's key. -/
theorem filter_flatMap_key {α β κ : Type} [BEq κ] [LawfulBEq κ] (key : α → κ) {keyOf : β → κ}
    {f : α → List β} {as : List α} (distinct : (as.map key).Nodup)
    (keyed : ∀ a ∈ as, ∀ b ∈ f a, keyOf b = key a) {a : α} (ha : a ∈ as) :
    (as.flatMap f).filter (keyOf · == key a) = f a := by
  induction as with
  | nil => exact nomatch ha
  | cons x rest ih =>
    rw [List.flatMap_cons, List.filter_append]
    obtain ⟨new, others⟩ := List.nodup_cons.mp distinct
    have keyedRest : ∀ a ∈ rest, ∀ b ∈ f a, keyOf b = key a :=
      fun a ha => keyed a (List.mem_cons_of_mem _ ha)
    rcases List.mem_cons.mp ha with rfl | later
    · have first : (f a).filter (keyOf · == key a) = f a := by
        rw [List.filter_eq_self]
        intro b hb
        exact beq_iff_eq.mpr (keyed a List.mem_cons_self b hb)
      have none : (rest.flatMap f).filter (keyOf · == key a) = [] := by
        rw [List.filter_eq_nil_iff]
        intro b hb same
        obtain ⟨y, hy, hb⟩ := List.mem_flatMap.mp hb
        apply new
        rw [← beq_iff_eq.mp same, keyedRest y hy b hb]
        exact List.mem_map_of_mem hy
      rw [first, none, List.append_nil]
    · have none : (f x).filter (keyOf · == key a) = [] := by
        rw [List.filter_eq_nil_iff]
        intro b hb same
        apply new
        rw [← keyed x List.mem_cons_self b hb, beq_iff_eq.mp same]
        exact List.mem_map_of_mem later
      rw [none, List.nil_append]
      exact ih others keyedRest later

/-- The connections of a topology, for a prefix of role names. -/
structure Expansion (t : Topology) (pathPrefix : String) (cs : List Connection) : Prop where
  /-- Every unit can make them all, and makes the same. -/
  made : ∀ scope, t.connections t.registry scope pathPrefix = .ok cs
  /-- They stand in the order of the peerings. -/
  order : cs = t.network.vpcPeerings.flatMap fun p => cs.filter (·.name == p.name)
  /-- A peering has one connection for every pair of accounts of its two VPCs. -/
  pairs : ∀ p ∈ t.network.vpcPeerings, ∃ requester accepter,
    p.vpcs = [requester.name, accepter.name] ∧ t.vpc? requester.name = some requester ∧
      t.vpc? accepter.name = some accepter ∧
      (t.registry.accountPairs requester accepter).Nodup ∧
      List.Forall₂ (t.Connects pathPrefix p requester accepter)
        (t.registry.accountPairs requester accepter) (cs.filter (·.name == p.name))
  /-- A unit requests those that it is the requester's scope of. -/
  requested : ∀ scope, t.connectionsOf t.registry scope pathPrefix =
    .ok (cs.filter (·.requester.scope == scope))
  /-- Each is requested by one unit. -/
  unique : ∀ c ∈ cs, ∃! scope, ∃ own,
    t.connectionsOf t.registry scope pathPrefix = .ok own ∧ c ∈ own

theorem Faultless.expansion (faultless : t.Faultless) (pathPrefix : String) :
    ∃ cs, t.Expansion pathPrefix cs := by
  -- The connections of every peering, one after the other.
  choose! requester accepter part names foundA foundB connects named results using
    fun p hp => faultless.peeringResults_eq (p := p) hp pathPrefix
  have ofName {p : VpcPeering} (hp : p ∈ t.network.vpcPeerings) :
      (t.network.vpcPeerings.flatMap part).filter (·.name == p.name) = part p :=
    filter_flatMap_key VpcPeering.name faultless.peering_names_nodup named hp
  have made (scope : Scope) :
      t.connections t.registry scope pathPrefix = .ok (t.network.vpcPeerings.flatMap part) := by
    apply collectOk_eq_ok.mpr
    rw [List.map_flatMap]
    apply List.flatMap_congr
    intro p hp
    exact results p hp scope
  have requested (scope : Scope) : t.connectionsOf t.registry scope pathPrefix =
      .ok ((t.network.vpcPeerings.flatMap part).filter (·.requester.scope == scope)) := by
    rw [connectionsOf, made]
    rfl
  refine ⟨_, made, ?_, fun p hp => ?_, requested, fun c hc => ?_⟩
  · apply List.flatMap_congr
    intro p hp
    exact (ofName hp).symm
  · rw [ofName hp]
    exact ⟨requester p, accepter p, names p hp, foundA p hp, foundB p hp,
      t.registry.nodup_accountPairs _ _, connects p hp⟩
  · refine ⟨c.requester.scope, ⟨_, requested _, List.mem_filter.mpr ⟨hc, beq_self_eq_true _⟩⟩, ?_⟩
    rintro scope ⟨own, planned, mine⟩
    rw [requested] at planned
    cases planned
    exact (beq_iff_eq.mp (List.mem_filter.mp mine).2).symm

end Topology

/-! ## Plans -/

/-- A connection as it was made: its VPCs are not looked up, and no routes over it
are planned. -/
def Connection.described (c : Connection) : Connection :=
  { c with requesterVpcId := none, accepterVpcId := none, stage := .classified }

theorem Connection.endOn_described (c : Connection) (side : PeeringSide) :
    c.described.endOn side = c.endOn side := by
  cases side <;> rfl

namespace PeeringPlan

variable {v : Vantage} {t : Topology} {s s' : Run}

/-- What a step keeps of every connection, the steps for all of them keep. -/
theorem run_forEach_map {α β : Type} {step : Connection → Lookup α} {f : α → β}
    {g : Connection → β}
    (kept : ∀ c a s s', (step c).run s = .ok a s' → f a = g c) :
    ∀ {cs : List Connection} {as : List α} {s s' : Run},
      (forEach step cs).run s = .ok as s' → as.map f = cs.map g
  | [], as, s, s', run => by
    obtain ⟨rfl, -⟩ := run_pure_ok.mp run
    rfl
  | c :: rest, as, s, s', run => by
    obtain ⟨a, s₁, one, run⟩ := run_bind_ok.mp run
    obtain ⟨others, s₂, more, last⟩ := run_bind_ok.mp run
    obtain ⟨rfl, -⟩ := run_pure_ok.mp last
    rw [List.map_cons, List.map_cons, kept c a s s₁ one, run_forEach_map kept more]

theorem resolveVpcs_described {c c' : Connection} (run : (resolveVpcs v c).run s = .ok c' s') :
    c'.described = c.described := by
  obtain ⟨requester, s₁, -, run⟩ := run_bind_ok.mp run
  obtain ⟨accepter, s₂, -, last⟩ := run_bind_ok.mp run
  obtain ⟨rfl, -⟩ := run_pure_ok.mp last
  rfl

theorem planSide_described {side : PeeringSide} {c : Connection} {r : Connection × RouteBatch}
    (run : (v.planSide t side c).run s = .ok r s') : r.1.described = c.described := by
  obtain ⟨-, rfl, -⟩ | ⟨-, batch, -, rfl⟩ := Vantage.planSide_ok run
  · rfl
  · rfl

theorem planSides_described {side : PeeringSide} {cs : List Connection}
    {r : List Connection × RouteBatch} (run : (planSides v t side cs).run s = .ok r s') :
    r.1.map Connection.described = cs.map Connection.described := by
  obtain ⟨results, s₁, planned, last⟩ := run_bind_ok.mp run
  obtain ⟨rfl, -⟩ := run_pure_ok.mp last
  rw [List.map_map]
  exact run_forEach_map (fun _ _ _ _ one => planSide_described one) planned

/-- The connections of a plan are those that the unit requests. -/
theorem build_described {plan : PeeringPlan} (run : (build v t).run s = .ok plan s') :
    ∃ cs, t.connectionsOf v.accounts v.caller v.pathPrefix = .ok cs ∧
      plan.connections.map Connection.described = cs.map Connection.described := by
  obtain ⟨cs, s₁, made, run⟩ := run_bind_ok.mp run
  obtain ⟨cs₁, s₂, resolved, run⟩ := run_bind_ok.mp run
  obtain ⟨⟨cs₂, requested⟩, s₃, near, run⟩ := run_bind_ok.mp run
  obtain ⟨⟨cs₃, accepted⟩, s₄, far, last⟩ := run_bind_ok.mp run
  obtain ⟨rfl, -⟩ := run_pure_ok.mp last
  refine ⟨cs, (Lookup.run_ofExcept_ok.mp made).1, ?_⟩
  calc cs₃.map Connection.described
      = cs₂.map Connection.described := planSides_described far
    _ = cs₁.map Connection.described := planSides_described near
    _ = cs.map Connection.described :=
      run_forEach_map (fun _ _ _ _ one => resolveVpcs_described one) resolved

end PeeringPlan

namespace Topology

variable {t : Topology} {pathPrefix : String} {cs : List Connection}

/-- Connections that are made are as they were made. -/
theorem described_of_connectionsOf {scope : Scope}
    (h : t.connectionsOf t.registry scope pathPrefix = .ok cs) :
    cs.map Connection.described = cs := by
  have same : ∀ c ∈ cs, c.described = c := by
    intro c hc
    obtain ⟨p, -, x, y, a, b, account, other, near, far, -, -, -, -, -, -, -, rfl⟩ :=
      connectionsOf_made h hc
    rfl
  exact (List.map_congr_left same).trans (List.map_id' cs)

/-- The connections that a plan of a unit has are those of which the unit is the
requester's scope. -/
theorem Expansion.planned (h : t.Expansion t.settings.pathPrefix cs) {scope : Scope}
    {backend : Backend} {plan : Plan} {s : Run} (run : t.plan scope backend = .ok plan s) :
    plan.peering.connections.map Connection.described =
      cs.filter (·.requester.scope == scope) := by
  obtain ⟨m, s₁, edges, routes, peering, s₂, rules, -, -, -, built, -, rfl⟩ := Plan.build_ok run
  obtain ⟨own, requested, same⟩ := PeeringPlan.build_described built
  obtain rfl : cs.filter (·.requester.scope == scope) = own :=
    Except.ok.inj ((h.requested scope).symm.trans requested)
  exact same.trans (described_of_connectionsOf requested)

end Topology

/-- In a valid topology every unit can make the connections of all peerings, and
makes the same: one for every pair of accounts that the two VPCs of a peering are
deployed to. A plan of a unit has those of which it is the requester's scope, so
that each is planned by one unit. -/
theorem connections_partitioned {t : Topology} (valid : t.validate = .ok ()) :
    (∀ pathPrefix, ∃ cs, t.Expansion pathPrefix cs) ∧
    ∀ cs, t.Expansion t.settings.pathPrefix cs → ∀ scope backend plan s,
      t.plan scope backend = .ok plan s →
        plan.peering.connections.map Connection.described =
          cs.filter (·.requester.scope == scope) :=
  ⟨(Topology.faultless_of_validate valid).expansion, fun _ made _ _ _ _ run => made.planned run⟩

/-- The sample with the VPC that is peered with deployed to two accounts: one that
is named, and one that is in an organizational unit. -/
def Topology.sampleSpread : Topology :=
  { sample with
    accounts :=
      [{ name := "Network", id := "111111111111", organizationalUnit := none },
        { name := "Workload", id := "222222222222", organizationalUnit := some "apps" }]
    network := { sample.network with
      vpcs := sample.network.vpcs.map fun v =>
        if v.name = "Shared" then
          { v with
            placement := .targets { accounts := ["Network"], organizationalUnits := ["apps"] } }
        else v } }

/-- The VPC of one account is peered with that of two. Its unit plans both
connections, and the unit of the other account none. -/
theorem connections_partitioned_sample :
    Topology.sampleSpread.validate = .ok () ∧
      ∃ cs, Topology.sampleSpread.Expansion "accel" cs ∧ cs.length = 2 ∧
        (∃ plan s, Topology.sampleSpread.plan ⟨"Workload", "us-east-1"⟩
            (.fixed fun _ => .value "id") = .ok plan s ∧
          plan.peering.connections.map Connection.described = cs) ∧
        ∃ plan s, Topology.sampleSpread.plan ⟨"Network", "us-east-1"⟩
            (.fixed fun _ => .value "id") = .ok plan s ∧
          plan.peering.connections.map Connection.described = [] := by
  obtain ⟨expands, planned⟩ := connections_partitioned (t := .sampleSpread) rfl
  obtain ⟨cs, expansion⟩ := expands "accel"
  -- Of the connections that are made there are two, with one requester.
  have made : ((Topology.sampleSpread.connections Topology.sampleSpread.registry
      ⟨"Workload", "us-east-1"⟩ "accel").map fun cs => cs.map (·.requester.scope)) =
        .ok [⟨"Workload", "us-east-1"⟩, ⟨"Workload", "us-east-1"⟩] := by decide +kernel
  rw [expansion.made] at made
  have requesters : cs.map (·.requester.scope) =
      [⟨"Workload", "us-east-1"⟩, ⟨"Workload", "us-east-1"⟩] := Except.ok.inj made
  have here : ∀ c ∈ cs, c.requester.scope = ⟨"Workload", "us-east-1"⟩ := by
    intro c hc
    have := List.mem_map_of_mem (f := fun c : Connection => c.requester.scope) hc
    rw [requesters] at this
    simpa using this
  have succeeds (scope : Scope) (h : ((Plan.build (Topology.sampleSpread.vantage scope
      (.fixed fun _ => .value "id")) .sampleSpread).comesTo fun _ => true) = true) :
      ∃ plan s, Topology.sampleSpread.plan scope (.fixed fun _ => .value "id") = .ok plan s := by
    obtain ⟨plan, s, run, -⟩ := Lookup.exists_of_comesTo h
    exact ⟨plan, s, run⟩
  obtain ⟨plan, s, run⟩ := succeeds ⟨"Workload", "us-east-1"⟩ (by decide +kernel)
  obtain ⟨plan', s', run'⟩ := succeeds ⟨"Network", "us-east-1"⟩ (by decide +kernel)
  refine ⟨rfl, cs, expansion, ?_, ⟨plan, s, run, ?_⟩, plan', s', run', ?_⟩
  · simpa using congrArg List.length requesters
  · rw [planned cs expansion _ _ _ _ run, List.filter_eq_self]
    intro c hc
    rw [here c hc]
    rfl
  · rw [planned cs expansion _ _ _ _ run', List.filter_eq_nil_iff]
    intro c hc
    rw [here c hc]
    decide

end Interlink
