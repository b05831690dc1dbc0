import Interlink.Proofs.Mentions
import Interlink.Proofs.PlanFailures

/-!
# Whose everything in a plan of peerings is

A unit that plans its peerings writes some routes itself and leaves others to a handler, and
publishes ids in its own scope and in that of the accepter. What it puts down for each of
them (a scope, an owner, an account id, a role) is said in `PeeringPlan.Owned`, which holds of
every plan of peerings, from whatever run the planning starts (`PeeringPlan.build_owned`).

All of it comes of the ends of the connections. A unit requests the connections that it is
the requester's scope of, so the routes of a requester are always its own, and only those of an
accepter can be another one's.
-/

namespace Interlink

open Lookup

/-! ## Ends -/

/-- An end of a connection is a VPC that is defined, in an account that the VPC is deployed to,
with the id of that account. -/
structure Vantage.Hosts (v : Vantage) (t : Topology) (e : PeeringEnd) : Prop where
  deployed : ∃ vpc, t.vpc? e.vpc = some vpc ∧ e.scope.region = vpc.region ∧
    e.scope.account ∈ v.accounts.vpcAccounts vpc
  accountId : v.accounts.accountId? e.scope.account = some e.accountId

namespace Topology

variable {v : Vantage} {t : Topology}

theorem hosts_of_peeringEnd {scope : Scope} {name : String} {vpc : Vpc} {account : String}
    {e : PeeringEnd} (found : t.vpc? name = some vpc)
    (deployed : account ∈ v.accounts.vpcAccounts vpc)
    (made : peeringEnd v.accounts scope vpc account = .ok e) : v.Hosts t e := by
  obtain ⟨ofVpc, scope, known⟩ := peeringEnd_ok made
  refine ⟨⟨vpc, ?_, ?_, ?_⟩, ?_⟩
  · rw [ofVpc, (vpc?_some found).2, found]
  · rw [scope]
  · rwa [scope]
  · rwa [scope]

/-- The ends of a connection host its VPCs. -/
theorem hosts_of_connectionsOf {cs : List Connection}
    (made : t.connectionsOf v.accounts v.caller v.pathPrefix = .ok cs) {c : Connection}
    (hc : c ∈ cs) (side : PeeringSide) : v.Hosts t (c.endOn side) := by
  obtain ⟨p, -, x, y, a, b, account, other, near, far, -, first, second, deployed, deployed',
    nearOk, farOk, rfl⟩ := connectionsOf_made made hc
  cases side with
  | requester => exact hosts_of_peeringEnd first deployed nearOk
  | accepter => exact hosts_of_peeringEnd second deployed' farOk

end Topology

/-! ## Connections -/

namespace PeeringPlan

open Vantage

variable {v : Vantage} {t : Topology} {s s' : Run} {p : PeeringPlan}

/-- The ids of both VPCs of a connection are those that have been learned. -/
structure Identifies (v : Vantage) (s : Run) (c : Connection) : Prop where
  requester : ∃ id, c.requesterVpcId = some id ∧
    s.Knows ⟨(Published.vpc c.requester.vpc).path v.pathPrefix, c.requester.scope⟩ id
  accepter : ∃ id, c.accepterVpcId = some id ∧
    s.Knows ⟨(Published.vpc c.accepter.vpc).path v.pathPrefix, c.accepter.scope⟩ id

theorem stable_identifies (c : Connection) : Run.Stable (Identifies v · c) := by
  rintro s s' continues ⟨⟨id, near, known⟩, ⟨id', far, known'⟩⟩
  exact ⟨⟨id, near, continues.knows known⟩, ⟨id', far, continues.knows known'⟩⟩

theorem resolveVpcs_identifies (c : Connection) :
    Meets (fun _ => True) (resolveVpcs v c)
      (fun c' s => c'.stage = c.stage ∧ Identifies v s c') fun _ => True := by
  refine (meets_learn Run.indifferent_true).bind _ fun near => ?_
  have stable := Run.stable_knows
    ⟨(Published.vpc c.requester.vpc).path v.pathPrefix, c.requester.scope⟩ near
  refine (((meets_learn Run.indifferent_true).and_stable stable).weaken
    (fun _ hs => ⟨trivial, hs.2⟩) (fun _ _ hs => hs) fun _ hs => hs).bind _ fun far =>
      meets_pure ?_
  rintro s ⟨⟨-, known'⟩, known⟩
  exact ⟨rfl, ⟨near, rfl, known⟩, ⟨far, rfl, known'⟩⟩

/-- Connections have come to a stage, and the ids of their VPCs are known. -/
def At (v : Vantage) (stage : PeeringStage) (cs : List Connection) (s : Run) : Prop :=
  ∀ c ∈ cs, c.stage = stage ∧ Identifies v s c

theorem stable_at (stage : PeeringStage) (cs : List Connection) : Run.Stable (At v stage cs) :=
  fun _ _ continues h c hc => (h c hc).imp_right (stable_identifies c continues)

theorem At.advance {stage : PeeringStage} {cs : List Connection} (side : PeeringSide)
    (h : At v stage cs s) : At v (stage.after side) (cs.map (advance side)) s := by
  intro c hc
  obtain ⟨c', hc', rfl⟩ := List.mem_map.mp hc
  obtain ⟨stage, identified⟩ := h c' hc'
  exact ⟨congrArg (·.after side) stage, identified.requester, identified.accepter⟩

/-- A side of connections at a stage is planned, if the stage is not past it. -/
theorem At.planSides {stage : PeeringStage} {side : PeeringSide} {cs : List Connection}
    {r : List Connection × RouteBatch} (h : At v stage cs s) (open_ : stage.isDone side = false)
    (run : (planSides v t side cs).run s = .ok r s') : At v (stage.after side) r.1 s' := by
  have unplanned : ∀ c ∈ cs, c.stage.isDone side = false := fun c hc => (h c hc).1 ▸ open_
  obtain ⟨continues, advanced, -⟩ := (planSides_pending s.plannedRoutes side unplanned).ok rfl run
  rw [advanced]
  exact (stable_at stage cs continues h).advance side

theorem forEach_identifies {cs : List Connection} (classified : ∀ c ∈ cs, c.stage = .classified) :
    Meets (At v .classified []) (forEach (resolveVpcs v) cs) (At v .classified)
      fun _ => True := by
  refine meets_forEach (fun _ => At v .classified) [] [] cs fun _ before c hc => ?_
  have one := (resolveVpcs_identifies (v := v) c).and_stable
    (stable_at (v := v) .classified before)
  refine one.weaken (fun s hs => ⟨trivial, hs⟩) (fun c' s hs => ?_) fun _ hs => hs
  refine List.forall_mem_append.mpr ⟨hs.2, fun c'' last => ?_⟩
  rw [List.mem_singleton.mp last]
  exact ⟨hs.1.1.trans (classified c hc), hs.1.2⟩

/-- When peerings are planned, both sides of every connection are routed. -/
theorem routed_of_build (run : (build v t).run s = .ok p s') : At v .routed p.connections s' := by
  obtain ⟨cs, s₁, made, run⟩ := run_bind_ok.mp run
  obtain ⟨cs₁, s₂, resolved, run⟩ := run_bind_ok.mp run
  obtain ⟨⟨cs₂, requested⟩, s₃, near, run⟩ := run_bind_ok.mp run
  obtain ⟨⟨cs₃, accepted⟩, s₄, far, last⟩ := run_bind_ok.mp run
  obtain ⟨rfl, rfl⟩ := run_pure_ok.mp last
  have classified := Topology.connectionsOf_classified (run_ofExcept_ok.mp made).1
  have identified := ((forEach_identifies classified).ok (by simp [At]) resolved).2
  exact (identified.planSides rfl near).planSides rfl far

/-- The connections of a plan are those that the unit requests. -/
theorem ends_of_build (run : (build v t).run s = .ok p s') {c : Connection}
    (hc : c ∈ p.connections) : c.requester.scope = v.caller ∧ ∀ side, v.Hosts t (c.endOn side) := by
  obtain ⟨cs, made, same⟩ := build_described run
  have listed : c.described ∈ cs.map Connection.described := same ▸ List.mem_map_of_mem hc
  obtain ⟨c', hc', described⟩ := List.mem_map.mp listed
  have ends (side : PeeringSide) : c.endOn side = c'.endOn side := by
    rw [← Connection.endOn_described, ← described, Connection.endOn_described]
  refine ⟨?_, fun side => ?_⟩
  · exact (congrArg PeeringEnd.scope (ends .requester)).trans
      (Topology.requester_of_requested made hc')
  · rw [ends side]
    exact Topology.hosts_of_connectionsOf made hc' side

end PeeringPlan

/-! ## Routes -/

namespace Vantage

variable {v : Vantage} {t : Topology} {s : Run}

/-- A prefix list that a destination names is deployed to a place, and has the id that has been
learned from there. -/
def Locates (v : Vantage) (t : Topology) (s : Run) (place : Scope) (d : Destination) : Prop :=
  ∀ name id, d = .prefixList name id → t.Deploys name place ∧
    s.Knows ⟨(Published.prefixList name).path v.pathPrefix, place⟩ id

/-- The unit writes a route into a table of a VPC that is deployed to the unit itself: it is the
end of a connection, on the side that the route says. -/
structure OwnsRoute (v : Vantage) (t : Topology) (s : Run) (cs : List Connection)
    (r : PeeringRoute) : Prop where
  scope : r.scope = v.caller
  side : ∃ c ∈ cs, c.key = r.peeringKey ∧ (c.endOn r.side).vpc = r.vpc ∧
    (c.endOn r.side).scope = v.caller ∧ v.Hosts t (c.endOn r.side)
  located : v.Locates t s r.scope r.destination

/-- A route is left to another owner: the accepter of a connection, with the id of its account
and the role of its region. -/
structure LeavesRoute (v : Vantage) (t : Topology) (s : Run) (cs : List Connection)
    (r : CrossAccountRoute) : Prop where
  accepter : ∃ c ∈ cs, c.key = r.peeringKey ∧ c.accepter.vpc = r.vpc ∧
    c.accepter.scope = r.owner ∧ c.accepter.accountId = r.ownerAccountId ∧ v.Hosts t c.accepter
  elsewhere : r.owner ≠ v.caller
  role : r.roleName = v.pathPrefix ++ "-VpcPeeringRole-" ++ r.owner.region
  located : v.Locates t s r.owner r.destination

theorem Leads.known {e : RouteEntry} {name id : String} (h : v.Leads t s e (.prefixList name id)) :
    s.Knows ⟨(Published.prefixList name).path v.pathPrefix, e.own.scope⟩ id := by
  cases h with
  | prefixList asked learned => exact learned

theorem roleName_peeringRoutes (pathPrefix region : String) :
    RolePurpose.peeringRoutes.roleName pathPrefix region =
      pathPrefix ++ "-VpcPeeringRole-" ++ region := by
  simp only [RolePurpose.roleName, RolePurpose.suffix, String.append_assoc]
  rfl

/-- The unit that requests a connection owns the routes that it writes for it. -/
theorem Writes.owns {cs : List Connection} {c : Connection} {side : PeeringSide} {e : RouteEntry}
    {r : PeeringRoute} (h : v.Writes t s r e) (hc : c ∈ cs) (he : e ∈ entriesOn t side c)
    (direct : e.isDirect v = true) (hosts : v.Hosts t (c.endOn side))
    (reaches : t.Reaches r.scope r.destination) : v.OwnsRoute t s cs r := by
  obtain ⟨vpc, row, -, -, rfl⟩ := mem_entriesOn he
  have here : (c.endOn side).scope = v.caller := beq_iff_eq.mp direct
  refine ⟨h.scope.trans here, ⟨c, hc, h.connection.symm, ?_⟩, fun name id leads => ?_⟩
  · rw [h.side, h.vpc]
    exact ⟨rfl, here, hosts⟩
  · refine ⟨reaches name id leads, ?_⟩
    rw [h.scope]
    exact (leads ▸ h.destination).known

/-- It leaves to others only routes of the accepter. -/
theorem Delegates.leaves {cs : List Connection} {c : Connection} {side : PeeringSide}
    {e : RouteEntry} {r : CrossAccountRoute} (h : v.Delegates t s r e) (hc : c ∈ cs)
    (he : e ∈ entriesOn t side c) (delegated : e.isDirect v = false)
    (mine : c.requester.scope = v.caller) (hosts : v.Hosts t (c.endOn side))
    (reaches : t.Reaches r.owner r.destination) : v.LeavesRoute t s cs r := by
  obtain ⟨vpc, row, -, -, rfl⟩ := mem_entriesOn he
  have elsewhere : (c.endOn side).scope ≠ v.caller := beq_eq_false_iff_ne.mp delegated
  have located : v.Locates t s r.owner r.destination := by
    intro name id leads
    refine ⟨reaches name id leads, ?_⟩
    rw [h.owner]
    exact (leads ▸ h.destination).known
  cases side with
  | requester => exact absurd mine elsewhere
  | accepter =>
    refine ⟨⟨c, hc, h.connection.symm, h.vpc.symm, h.owner.symm, h.accountId.symm, hosts⟩, ?_, ?_,
      located⟩
    · rw [h.owner]
      exact elsewhere
    · rw [h.role, h.owner, roleName_peeringRoutes]

end Vantage

/-! ## Plans -/

namespace PeeringPlan

variable {v : Vantage} {t : Topology} {s s' : Run} {p : PeeringPlan}

/-- Whose everything in a plan of peerings is. -/
structure Owned (v : Vantage) (t : Topology) (s : Run) (p : PeeringPlan) : Prop where
  /-- The unit requests every connection, knows both its VPCs and has planned both its sides. -/
  connections : ∀ c ∈ p.connections,
    c.requester.scope = v.caller ∧ c.stage = .routed ∧ Identifies v s c
  routes : ∀ r ∈ p.routes, v.OwnsRoute t s p.connections r
  crossAccountRoutes : ∀ r ∈ p.crossAccountRoutes, v.LeavesRoute t s p.connections r
  handler : p.handler.isSome ↔ p.crossAccountRoutes ≠ []
  /-- The handler has the roles that are used, in strictly ascending order. -/
  roles : ∀ h ∈ p.handler, h.scope = v.caller ∧ h.roleNames.Pairwise (· < ·) ∧
    ∀ role, role ∈ h.roleNames ↔ ∃ r ∈ p.crossAccountRoutes, r.roleName = role
  /-- Every connection is published in the requester's scope, and in the accepter's if that is
  another one. -/
  publications : p.publications = p.connections.flatMap fun c =>
    let path := "/" ++ v.pathPrefix ++ "/network/vpcPeering/" ++ c.key ++ "/id"
    ⟨c.requester.scope, path, c.key⟩ ::
      (if c.accepter.scope = c.requester.scope then [] else [⟨c.accepter.scope, path, c.key⟩])

theorem path_vpcPeering (key pathPrefix : String) :
    (Published.vpcPeering key).path pathPrefix =
      "/" ++ pathPrefix ++ "/network/vpcPeering/" ++ key ++ "/id" := by
  simp only [Published.path, Published.segments, Published.networkPath, List.foldl_cons,
    List.foldl_nil, String.append_assoc]
  rfl

theorem handlerFor_isSome {scope : Scope} {routes : List CrossAccountRoute} :
    (handlerFor scope routes).isSome ↔ routes ≠ [] := by
  unfold handlerFor
  cases routes <;> simp

theorem handlerFor_some {scope : Scope} {routes : List CrossAccountRoute} {h : RouteHandler}
    (handler : handlerFor scope routes = some h) :
    h.scope = scope ∧ h.roleNames.Pairwise (· < ·) ∧
      ∀ role, role ∈ h.roleNames ↔ ∃ r ∈ routes, r.roleName = role := by
  refine ⟨handlerFor_scope handler, ?_⟩
  unfold handlerFor at handler
  split at handler
  · exact nomatch handler
  · cases handler
    refine ⟨SortedMap.pairwise_keys _, fun role => ?_⟩
    rw [SortedMap.mem_keys, NameSet.contains_ofNames, List.mem_map]

/-- A plan of peerings puts down for everything in it whose it is. -/
theorem build_owned {v : Vantage} {t : Topology} {s s' : Run} {p : PeeringPlan}
    (run : (build v t).run s = .ok p s') : p.Owned v t s' := by
  have realized := ((build_pending s.plannedRoutes).ok rfl run).2
  have reached := reached_of_build run
  obtain ⟨handler, publications⟩ := build_ok run
  -- Every entry that is planned is one of a connection of the plan.
  have listed {e : RouteEntry}
      (he : e ∈ RouteEntry.pending s.plannedRoutes (routeEntries t p.connections)) :
      ∃ c ∈ p.connections, ∃ side, e ∈ Vantage.entriesOn t side c :=
    mem_routeEntries (RouteEntry.pending_sublist.subset he)
  constructor
  case connections =>
    intro c hc
    exact ⟨(ends_of_build run hc).1, routed_of_build run c hc⟩
  case routes =>
    intro r hr
    obtain ⟨e, he, writes⟩ := exists_of_forall₂ realized.direct.flip hr
    obtain ⟨planned, direct⟩ := List.mem_filter.mp he
    obtain ⟨c, hc, side, he⟩ := listed planned
    exact writes.owns hc he direct ((ends_of_build run hc).2 side) (reached.direct r hr)
  case crossAccountRoutes =>
    intro r hr
    obtain ⟨e, he, delegates⟩ := exists_of_forall₂ realized.delegated.flip hr
    obtain ⟨planned, delegated⟩ := List.mem_filter.mp he
    obtain ⟨c, hc, side, he⟩ := listed planned
    obtain ⟨mine, hosts⟩ := ends_of_build run hc
    exact delegates.leaves hc he (by simpa using delegated) mine (hosts side)
      (reached.delegated r hr)
  case handler =>
    rw [handler]
    exact handlerFor_isSome
  case roles =>
    intro h hh
    rw [handler] at hh
    exact handlerFor_some hh
  case publications =>
    rw [publications]
    refine List.flatMap_congr fun c _ => ?_
    rw [publicationsOf, path_vpcPeering]

end PeeringPlan

/-- The sample with routes to a prefix list, and with the VPC that is peered with deployed to both
accounts. -/
def Topology.sampleSpreadListed : Topology where
  settings := sample.settings
  accounts := sample.accounts
  network :=
    { sampleListed.network with
      vpcs := sampleListed.network.vpcs.map fun v =>
        if v.name = "Shared" then
          { v with placement := .targets { accounts := ["Network", "Workload"] } }
        else v
      prefixLists := [⟨"corp", ["Network", "Workload"], ["us-east-1"], []⟩] }

/-- The unit requests a connection to the other account and one within its own. It writes three of
their routes, and leaves the other account's to the handler. -/
theorem build_owned_sample :
    Topology.sampleSpreadListed.validate = .ok () ∧
    ∃ p s, (PeeringPlan.build Topology.sampleSpreadListed.workload .sampleSpreadListed).run {} =
        .ok p s ∧
      (p.connections.length, p.routes.length, p.publications.length) = (2, 3, 3) ∧
      p.crossAccountRoutes.map (fun r => (r.owner, r.destination)) =
        [(⟨"Network", "us-east-1"⟩, .prefixList "corp" "id")] ∧
      p.Owned Topology.sampleSpreadListed.workload Topology.sampleSpreadListed s := by
  have check : (PeeringPlan.build Topology.sampleSpreadListed.workload
      .sampleSpreadListed).comesTo (fun p => decide
      ((p.connections.length, p.routes.length, p.publications.length) = (2, 3, 3) ∧
        p.crossAccountRoutes.map (fun r => (r.owner, r.destination)) =
          [(⟨"Network", "us-east-1"⟩, .prefixList "corp" "id")])) = true := by decide +kernel
  obtain ⟨p, s, run, counts⟩ := Lookup.exists_of_comesTo check
  obtain ⟨counts, delegated⟩ := of_decide_eq_true counts
  exact ⟨rfl, p, s, run, counts, delegated, PeeringPlan.build_owned run⟩

end Interlink
