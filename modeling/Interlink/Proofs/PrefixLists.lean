import Interlink.Proofs.Mentions

/-!
# Where a prefix list is deployed

Nothing keeps the names of prefix lists apart, so that a topology may define a list
several times, with other accounts and regions each time. A unit asks in two places
whether a list is deployed to it. Its map has every definition that is, under the
name; a static route reads the map. The check of a route over a peering looks the
name up in the topology, and there the first definition answers for all of them.

A list that the check accepts is in the map, and both have one id for it: the map
was built from what has been learned, and what has been learned is found again. The
converse fails for a list that is deployed to the unit while its first definition is
not. Such a list is shadowed, and but for shadowed lists the two agree
(`prefix_lists_agree_iff`). No list is shadowed where names do not repeat
(`not_shadows_of_nodup`); `shadowed_list_refused` has a topology with one that is.
-/

namespace Interlink

namespace Topology

variable {t : Topology} {name : String} {place : Scope}

/-- The first definition of a prefix list is deployed to a scope. -/
def FirstDeploys (t : Topology) (name : String) (place : Scope) : Prop :=
  ∃ l, t.prefixList? name = some l ∧ l.isDeployedTo place.account place.region = true

/-- A prefix list is deployed to a scope, but its first definition is not. -/
def Shadows (t : Topology) (name : String) (place : Scope) : Prop :=
  t.Deploys name place ∧ ¬ t.FirstDeploys name place

theorem FirstDeploys.deploys (h : t.FirstDeploys name place) : t.Deploys name place := by
  obtain ⟨l, found, deployed⟩ := h
  obtain ⟨defined, named⟩ := prefixList?_some found
  exact ⟨l, defined, named, deployed⟩

/-- Where a list is not shadowed, its first definition answers for all of them. -/
theorem firstDeploys_iff_deploys : (t.FirstDeploys name place ↔ t.Deploys name place) ↔
    ¬ t.Shadows name place := by
  constructor
  · rintro same ⟨deployed, first⟩
    exact first (same.mpr deployed)
  · intro none
    exact ⟨FirstDeploys.deploys, fun deployed => by_contra fun first => none ⟨deployed, first⟩⟩

/-- No list is shadowed where the names of the lists do not repeat. -/
theorem not_shadows_of_nodup (distinct : (t.network.prefixLists.map (·.name)).Nodup) :
    ¬ t.Shadows name place := by
  rintro ⟨⟨l, defined, named, deployed⟩, first⟩
  cases found : t.prefixList? name with
  | none => exact absurd (beq_iff_eq.mpr named) (List.find?_eq_none.mp found l defined)
  | some l' =>
    obtain ⟨defined', named'⟩ := prefixList?_some found
    obtain rfl := List.inj_on_of_nodup_map distinct defined defined' (named.trans named'.symm)
    exact first ⟨l, found, deployed⟩

/-- The check looks at the first definition. -/
theorem any_prefixList?_iff :
    (t.prefixList? name).any (·.isDeployedTo place.account place.region) = true ↔
      t.FirstDeploys name place := by
  rw [Option.any_eq_true]
  rfl

end Topology

variable {v : Vantage} {t : Topology} {m : UnitMap} {s s' : Run}

/-! ## Ids -/

namespace UnitMap

/-- The map has some prefix lists, and the ids that it has for them are remembered. -/
def Lists (v : Vantage) (m : UnitMap) (ls : List PrefixList) (s : Run) : Prop :=
  ∀ l ∈ ls, ∃ id, m.prefixLists.get? l.name = some id ∧
    s.Knows ⟨(Published.prefixList l.name).path v.pathPrefix, v.caller⟩ id

theorem stable_lists (m : UnitMap) (ls : List PrefixList) : Run.Stable (m.Lists v ls) := by
  intro s s' continues lists l hl
  obtain ⟨id, listed, known⟩ := lists l hl
  exact ⟨id, listed, continues.knows known⟩

/-- A list that is resolved takes the place of an earlier one of its name. The others stay. -/
theorem resolvePrefixList_lists (done : List PrefixList) (l : PrefixList) :
    Lookup.Meets (m.Lists v done) (resolvePrefixList v m l)
      (fun m s => m.Lists v (done ++ [l]) s) fun _ => True := by
  have learned : Lookup.Meets (fun s => True ∧ m.Lists v done s)
      (v.learn (.prefixList l.name) v.caller) _ _ :=
    (Vantage.meets_learn Run.indifferent_true).and_stable (stable_lists m done)
  refine (learned.weaken (fun _ lists => ⟨trivial, lists⟩) (fun _ _ h => h) fun _ h => h).bind _
    fun id => Lookup.meets_pure fun s ⟨⟨_, known⟩, lists⟩ l' hl' => ?_
  by_cases same : l'.name = l.name
  · refine ⟨id, ?_, same ▸ known⟩
    rw [addPrefixList, SortedMap.get?_insert, if_pos same]
  · have earlier : l' ∈ done := by
      rcases List.mem_append.mp hl' with earlier | new
      · exact earlier
      · exact absurd (congrArg PrefixList.name (List.mem_singleton.mp new)) same
    obtain ⟨id', listed, known'⟩ := lists l' earlier
    refine ⟨id', ?_, known'⟩
    rw [addPrefixList, SortedMap.get?_insert, if_neg same, listed]

/-- The map that has been built has the lists that are deployed to the unit, each with the id that
is remembered for it. -/
theorem lists_of_build (run : (build v t).run s = .ok m s') :
    m.Lists v (t.network.prefixLists.filter
      (·.isDeployedTo v.caller.account v.caller.region)) s' := by
  obtain ⟨m₁, s₁, -, run⟩ := run_bind_ok.mp run
  obtain ⟨ds, s₂, -, run⟩ := run_bind_ok.mp run
  obtain ⟨m₂, s₃, -, listed⟩ := run_bind_ok.mp run
  have all (ls : List PrefixList) : Lookup.Meets (m₂.Lists v [])
      (ls.foldlM (resolvePrefixList v) m₂) (fun m s => m.Lists v ls s) fun _ => True :=
    Lookup.meets_foldlM (fun done m s => m.Lists v done s) [] ls m₂
      fun done l _ _ _ => resolvePrefixList_lists done l
  exact ((all _).ok (fun _ => nofun) listed).2

/-- So for a list that is deployed there is an id in the map, and it is remembered. -/
theorem id_of_deploys (run : (build v t).run s = .ok m s') {name : String}
    (deployed : t.Deploys name v.caller) : ∃ id, m.prefixLists.get? name = some id ∧
      s'.Knows ⟨(Published.prefixList name).path v.pathPrefix, v.caller⟩ id := by
  obtain ⟨l, defined, rfl, deployed⟩ := deployed
  exact lists_of_build run l (List.mem_filter.mpr ⟨defined, deployed⟩)

end UnitMap

/-! ## The two places -/

namespace Vantage

variable {r : VpcRoute} {own peer : PeeringEnd} {name : String}

/-- A route to a prefix list learns its id if the first definition is deployed where the route
is. -/
theorem destination_of_firstDeploys (asked : r.destinationSpec = .prefixList name)
    (first : t.FirstDeploys name own.scope) :
    v.destination t r own peer = (do
      let id ← v.learn (.prefixList name) own.scope
      pure (.prefixList name id)) := by
  unfold destination
  rw [asked]
  simp only [Topology.any_prefixList?_iff.mpr first, if_true]

/-- It fails at once if the first definition is not. -/
theorem destination_of_not_firstDeploys (asked : r.destinationSpec = .prefixList name)
    (first : ¬ t.FirstDeploys name own.scope) :
    v.destination t r own peer =
      throw (.misconfigured (.prefixListNotAtRouteTable name) own.scope) := by
  unfold destination
  rw [asked]
  simp only [mt Topology.any_prefixList?_iff.mp first, Bool.false_eq_true, if_false]

/-- What has been learned is found again, and nobody is asked. -/
theorem learn_of_knows {p : Published} {owner : Scope} {value : String}
    (known : s.Knows ⟨p.path v.pathPrefix, owner⟩ value) :
    (v.learn p owner).run s = .ok value (s.note ⟨p.path v.pathPrefix, owner⟩).hit := by
  show (recalled ⟨p.path v.pathPrefix, owner⟩ _ _).run s = _
  rw [recalled_run, known]

end Vantage

/-- A prefix list as one unit sees it: with the map that it has built, and at a route over a
peering that starts in its own scope, in some later run. -/
structure PrefixListSeen (v : Vantage) (t : Topology) (m : UnitMap) (s : Run) (r : VpcRoute)
    (own peer : PeeringEnd) (name : String) : Prop where
  /-- The map has the list if a definition of it is deployed to the unit. -/
  listed : m.prefixLists.contains name = true ↔ t.Deploys name v.caller
  /-- The check of the route accepts the list if the first definition is. -/
  accepted : (∃ d s', (v.destination t r own peer).run s = .ok d s') ↔ t.FirstDeploys name v.caller
  /-- Otherwise the route is refused, and nothing is asked. -/
  refused : ¬ t.FirstDeploys name v.caller → (v.destination t r own peer).run s =
    .error (.misconfigured (.prefixListNotAtRouteTable name) v.caller) s
  /-- A list that is accepted has the id that it has in the map. A static route of the unit that
  names the list leads to the same destination, and nobody is asked for the id again. -/
  agreed : ∀ d s', (v.destination t r own peer).run s = .ok d s' →
    s'.exchanges = s.exchanges ∧
    ∃ id, d = .prefixList name id ∧ m.prefixLists.get? name = some id ∧
      ∀ static : StaticRoute, static.destinationCidrBlock = none →
        static.destinationPrefixList = some name → m.routeDestination static = .ok d
  /-- The check and the map agree if and only if the list is not shadowed. -/
  agree_iff : ((∃ d s', (v.destination t r own peer).run s = .ok d s') ↔
      m.prefixLists.contains name = true) ↔ ¬ t.Shadows name v.caller

/-- A unit that has built its map sees a prefix list in the same way at its static routes and at
its routes over peerings, unless the list is shadowed. -/
theorem prefix_lists_agree_iff {u : Run} {r : VpcRoute} {own peer : PeeringEnd} {name : String}
    (run : (UnitMap.build v t).run s = .ok m s') (later : s'.Continues u)
    (asked : r.destinationSpec = .prefixList name) (here : own.scope = v.caller) :
    PrefixListSeen v t m u r own peer name := by
  have listed : m.prefixLists.contains name = true ↔ t.Deploys name v.caller := by
    refine ⟨UnitMap.deploys_of_build run, fun deployed => ?_⟩
    obtain ⟨id, found, -⟩ := UnitMap.id_of_deploys run deployed
    rw [SortedMap.contains, found, Option.isSome_some]
  have refused (first : ¬ t.FirstDeploys name v.caller) : (v.destination t r own peer).run u =
      .error (.misconfigured (.prefixListNotAtRouteTable name) v.caller) u := by
    rw [← here] at first ⊢
    rw [Vantage.destination_of_not_firstDeploys asked first]
    rfl
  have found (first : t.FirstDeploys name v.caller) :
      ∃ id, m.prefixLists.get? name = some id ∧ (v.destination t r own peer).run u =
        .ok (.prefixList name id)
          (u.note ⟨(Published.prefixList name).path v.pathPrefix, v.caller⟩).hit := by
    obtain ⟨id, there, known⟩ := UnitMap.id_of_deploys run first.deploys
    refine ⟨id, there, ?_⟩
    rw [Vantage.destination_of_firstDeploys asked (here ▸ first), here]
    exact run_bind_ok.mpr ⟨id, _, Vantage.learn_of_knows (later.knows known),
      run_pure_ok.mpr ⟨rfl, rfl⟩⟩
  have accepted : (∃ d s', (v.destination t r own peer).run u = .ok d s') ↔
      t.FirstDeploys name v.caller := by
    constructor
    · rintro ⟨d, s', accepted⟩
      by_contra first
      rw [refused first] at accepted
      cases accepted
    · intro first
      obtain ⟨id, -, accepted⟩ := found first
      exact ⟨_, _, accepted⟩
  refine ⟨listed, accepted, refused, fun d u' leads => ?_, ?_⟩
  · obtain ⟨id, there, accepted⟩ := found (accepted.mp ⟨d, u', leads⟩)
    cases leads.symm.trans accepted
    refine ⟨by simp, id, rfl, there, fun static noBlock named => ?_⟩
    rw [UnitMap.routeDestination, noBlock, named, Option.getD_some]
    simp only [there]
  · rw [accepted, listed]
    exact Topology.firstDeploys_iff_deploys

/-! ## A list that is shadowed -/

/-- The sample in which a route over a peering names the prefix list `offices`, which is defined
twice: first for another account, and then for that of the route. -/
def Topology.sampleShadowed : Topology :=
  sampleNaming "App" "AppShared"
    [⟨"branches", ["Network"], ["us-east-1"], []⟩, ⟨"offices", ["Network"], ["us-east-1"], []⟩,
      ⟨"offices", ["Workload"], ["us-east-1"], []⟩]

/-- The end of the peering that the route starts from. -/
def PeeringEnd.sampleApp : PeeringEnd :=
  ⟨"App", ⟨"Workload", "us-east-1"⟩, "222222222222", false⟩

/-- The end that it leads to. -/
def PeeringEnd.sampleShared : PeeringEnd :=
  ⟨"Shared", ⟨"Network", "us-east-1"⟩, "111111111111", false⟩

/-- The unit of the VPC's owner, which is told one id for everything. -/
def Topology.appUnit (t : Topology) : Vantage :=
  t.vantage ⟨"Workload", "us-east-1"⟩ (.fixed fun _ => .value "id")

open Interlink.Topology in
/-- The owner of the VPC builds its map, with a list that is defined once and with one that is
shadowed. -/
theorem prefix_lists_agree_iff_sample :
    (∃ m s, (UnitMap.build sampleNamed.appUnit sampleNamed).run {} = .ok m s ∧
      m.prefixLists.get? "offices" = some "id" ∧
      PrefixListSeen sampleNamed.appUnit sampleNamed m s (sampleOver "AppShared")
        .sampleApp .sampleShared "offices") ∧
    ∃ m s, (UnitMap.build sampleShadowed.appUnit sampleShadowed).run {} = .ok m s ∧
      m.prefixLists.get? "offices" = some "id" ∧
      PrefixListSeen sampleShadowed.appUnit sampleShadowed m s (sampleOver "AppShared")
        .sampleApp .sampleShared "offices" := by
  have named : (UnitMap.build sampleNamed.appUnit sampleNamed).comesTo (fun m =>
      m.prefixLists.get? "offices" == some "id") = true := by
    decide +kernel
  have shadowed : (UnitMap.build sampleShadowed.appUnit sampleShadowed).comesTo (fun m =>
      m.prefixLists.get? "offices" == some "id") = true := by
    decide +kernel
  obtain ⟨m, s, run, listed⟩ := Lookup.exists_of_comesTo named
  obtain ⟨m', s', run', listed'⟩ := Lookup.exists_of_comesTo shadowed
  exact ⟨⟨m, s, run, beq_iff_eq.mp listed, prefix_lists_agree_iff run (.refl s) rfl rfl⟩,
    m', s', run', beq_iff_eq.mp listed', prefix_lists_agree_iff run' (.refl s') rfl rfl⟩

open Interlink.Topology in
/-- The topology is valid, its peering connects the two ends, and the map of the VPC's owner has
the list. But the check of the route does not accept the list, and the unit cannot be planned. -/
theorem shadowed_list_refused :
    sampleShadowed.validate = .ok () ∧
    sampleShadowed.Shadows "offices" sampleShadowed.appUnit.caller ∧
    (sampleShadowed.connectionsOf sampleShadowed.registry sampleShadowed.appUnit.caller
      "accel").map (·.map fun c => (c.requester, c.accepter)) =
        .ok [(.sampleApp, .sampleShared)] ∧
    (∃ m s, (UnitMap.build sampleShadowed.appUnit sampleShadowed).run {} = .ok m s ∧
      ¬ ((∃ d s', (sampleShadowed.appUnit.destination sampleShadowed (sampleOver "AppShared")
          .sampleApp .sampleShared).run s = .ok d s') ↔
        m.prefixLists.contains "offices" = true)) ∧
    ∃ s, (Plan.build sampleShadowed.appUnit sampleShadowed).run {} =
      .error (.misconfigured (.prefixListNotAtRouteTable "offices")
        sampleShadowed.appUnit.caller) s := by
  have shadowed : sampleShadowed.Shadows "offices" sampleShadowed.appUnit.caller := by
    refine ⟨⟨_, List.mem_cons_of_mem _ (List.mem_cons_of_mem _ List.mem_cons_self), rfl, rfl⟩, ?_⟩
    rintro ⟨l, found, deployed⟩
    cases found
    exact nomatch deployed
  have mapped : (UnitMap.build sampleShadowed.appUnit sampleShadowed).comesTo (fun m =>
      m.prefixLists.contains "offices") = true := by
    decide +kernel
  have refused : (Plan.build sampleShadowed.appUnit sampleShadowed).failsWith
      (.misconfigured (.prefixListNotAtRouteTable "offices")
        sampleShadowed.appUnit.caller) = true := by
    decide +kernel
  obtain ⟨m, s, run, listed⟩ := Lookup.exists_of_comesTo mapped
  refine ⟨rfl, shadowed, rfl, ⟨m, s, run, fun same => ?_⟩, Lookup.exists_of_failsWith refused⟩
  obtain ⟨d, s', accepted⟩ := same.mpr listed
  rw [Vantage.destination_of_not_firstDeploys rfl shadowed.2] at accepted
  exact nomatch accepted

end Interlink
