import Interlink.Proofs.ConnectionKeys
import Interlink.Proofs.Deployment
import Mathlib.Logic.Relation

/-!
# Which peerings span accounts or regions

A peering is classified once, by its two VPCs: it spans accounts or regions unless both
VPCs are of one region and are deployed to the same accounts. Two VPCs of a single
account each are compared by a shortcut, which agrees with the comparison of all accounts
(`Registry.spansAccounts_eq`). So the classification sees nothing of a VPC but its region
and the set of its accounts, however these are written down
(`Registry.spansAccounts_determined`).

A peering has a connection for every pair of accounts, and the classification is one for
all of them. That the two sets of accounts are the same says of a connection only that
both of its accounts are in the set. So a connection of a peering that does not span
accounts may lead from one account to another (`Topology.unspanned_connection_crosses`),
and all of them stay in their scopes exactly if there is at most one account. What holds
of a connection whose two scopes are one, and what of the others, is
`Topology.connections_of_unspanned`.
-/

namespace Interlink

/-! ## The comparison -/

namespace Registry

variable {r : Registry} {a b : List String} {v w v' w' : Vpc}

theorem sameNames_iff : sameNames a b = true ↔ ∀ name, name ∈ a ↔ name ∈ b := by
  unfold sameNames
  rw [Bool.and_eq_true, List.all_eq_true, List.all_eq_true]
  simp only [List.contains_iff_mem]
  exact ⟨fun h name => ⟨h.1 name, h.2 name⟩,
    fun h => ⟨fun name => (h name).mp, fun name => (h name).mpr⟩⟩

/-- The shortcut for two VPCs of a single account each compares all their accounts. -/
theorem spansAccounts_eq (r : Registry) (v w : Vpc) :
    r.spansAccounts v w =
      (v.region != w.region || !sameNames (r.vpcAccounts v) (r.vpcAccounts w)) := by
  unfold spansAccounts
  by_cases regions : v.region = w.region
  · simp only [regions, ne_eq, not_true_eq_false, if_false, bne_self_eq_false, Bool.false_or]
    split
    · next x y single single' =>
      simp only [vpcAccounts, placed, single, single']
      by_cases same : x = y
      · simp [sameNames, same]
      · simp [sameNames, same]
    · rfl
  · simp [regions]

/-- Two VPCs are of one region, and are deployed to the same accounts. -/
structure Alike (r : Registry) (v w : Vpc) : Prop where
  region : v.region = w.region
  accounts : ∀ name, name ∈ r.vpcAccounts v ↔ name ∈ r.vpcAccounts w

theorem spansAccounts_eq_false : r.spansAccounts v w = false ↔ r.Alike v w := by
  rw [spansAccounts_eq, Bool.or_eq_false_iff, bne_eq_false_iff_eq, Bool.not_eq_false',
    sameNames_iff]
  exact ⟨fun h => ⟨h.1, h.2⟩, fun h => ⟨h.region, h.accounts⟩⟩

theorem Alike.symm (h : r.Alike v w) : r.Alike w v :=
  ⟨h.region.symm, fun name => (h.accounts name).symm⟩

theorem Alike.trans {u : Vpc} (h : r.Alike v w) (h' : r.Alike w u) : r.Alike v u :=
  ⟨h.region.trans h'.region, fun name => (h.accounts name).trans (h'.accounts name)⟩

/-- Two peerings are classified alike if the VPCs of both are alike, or those of neither. -/
theorem spansAccounts_congr (h : r.Alike v w ↔ r.Alike v' w') :
    r.spansAccounts v w = r.spansAccounts v' w' := by
  rw [Bool.eq_iff_iff, ← not_iff_not, Bool.not_eq_true, Bool.not_eq_true, spansAccounts_eq_false,
    spansAccounts_eq_false, h]

end Registry

/-! ## Placements that say the same -/

/-- Ways of writing a placement down differently. -/
inductive Placement.Rewrites (r : Registry) : Placement → Placement → Prop
  /-- The lists of a choice are given in another order, or with repetitions. -/
  | relisted {choice choice' : Targets}
      (accounts : ∀ name, name ∈ choice.accounts ↔ name ∈ choice'.accounts)
      (units : ∀ unit, unit ∈ choice.organizationalUnits ↔ unit ∈ choice'.organizationalUnits)
      (excluded : ∀ name, name ∈ choice.excludedAccounts ↔ name ∈ choice'.excludedAccounts) :
      Rewrites r (.targets choice) (.targets choice')
  /-- A unit gives way to the list of its members. -/
  | spelledOut {accounts before after excluded : List String} {unit : String} :
      Rewrites r (.targets ⟨accounts, before ++ unit :: after, excluded⟩)
        (.targets ⟨accounts ++ r.accountsIn unit, before ++ after, excluded⟩)
  /-- A single account gives way to a choice that comes to it. -/
  | chosen {account : String} {choice : Targets} (only : r.resolveTargets choice = [account]) :
      Rewrites r (.single account) (.targets choice)

namespace Registry

variable {r : Registry} {p q : Placement} {name : String}

theorem mem_resolveTargets {choice : Targets} :
    name ∈ r.resolveTargets choice ↔
      (name ∈ choice.accounts ∨ ∃ unit ∈ choice.organizationalUnits, name ∈ r.accountsIn unit) ∧
        name ∉ choice.excludedAccounts := by
  rw [resolveTargets, mem_firstOccurrences, List.mem_filter, candidates, List.mem_append,
    List.mem_flatMap]
  simp

/-- Placements that are written down differently come to the same accounts. -/
theorem mem_placed_of_rewrites (h : Placement.Rewrites r p q) :
    name ∈ r.placed p ↔ name ∈ r.placed q := by
  cases h with
  | relisted accounts units excluded =>
    simp only [placed, mem_resolveTargets, accounts, units, excluded]
  | @spelledOut accounts before after excluded unit =>
    simp only [placed, mem_resolveTargets]
    refine and_congr_left' ?_
    constructor
    · rintro (listed | ⟨unit', listed, member⟩)
      · exact .inl (List.mem_append_left _ listed)
      · rcases List.mem_append.mp listed with earlier | later
        · exact .inr ⟨unit', List.mem_append_left _ earlier, member⟩
        · rcases List.mem_cons.mp later with rfl | later
          · exact .inl (List.mem_append_right _ member)
          · exact .inr ⟨unit', List.mem_append_right _ later, member⟩
    · rintro (listed | ⟨unit', listed, member⟩)
      · rcases List.mem_append.mp listed with named | member
        · exact .inl named
        · exact .inr ⟨unit, List.mem_append_right _ List.mem_cons_self, member⟩
      · rcases List.mem_append.mp listed with earlier | later
        · exact .inr ⟨unit', List.mem_append_left _ earlier, member⟩
        · exact .inr ⟨unit', List.mem_append_right _ (List.mem_cons_of_mem _ later), member⟩
  | chosen only => simp only [placed, only]

/-- So do placements that are rewritten step by step, forth and back. -/
theorem mem_placed_of_eqvGen (h : Relation.EqvGen (Placement.Rewrites r) p q) :
    name ∈ r.placed p ↔ name ∈ r.placed q := by
  induction h with
  | rel p q step => exact mem_placed_of_rewrites step
  | refl p => rfl
  | symm p q _ ih => exact ih.symm
  | trans p q u _ _ first second => exact first.trans second

theorem alike_of_eqvGen {v w : Vpc} (region : v.region = w.region)
    (h : Relation.EqvGen (Placement.Rewrites r) v.placement w.placement) : r.Alike v w :=
  ⟨region, fun _ => mem_placed_of_eqvGen h⟩

/-- A peering of two VPCs is not classified as spanning accounts or regions if and only if their
regions are the same and they are deployed to the same accounts. So it does not matter which VPC
comes first, nor how their accounts are written down. -/
theorem spansAccounts_determined (r : Registry) :
    (∀ v w, r.spansAccounts v w = false ↔
      v.region = w.region ∧ ∀ name, name ∈ r.vpcAccounts v ↔ name ∈ r.vpcAccounts w) ∧
    (∀ v w, r.spansAccounts v w = r.spansAccounts w v) ∧
    ∀ v w v' w' : Vpc, v.region = v'.region → w.region = w'.region →
      Relation.EqvGen (Placement.Rewrites r) v.placement v'.placement →
      Relation.EqvGen (Placement.Rewrites r) w.placement w'.placement →
        r.spansAccounts v w = r.spansAccounts v' w' := by
  refine ⟨fun v w => ?_, fun v w => ?_, fun v w v' w' regionV regionW placedV placedW => ?_⟩
  · exact spansAccounts_eq_false.trans ⟨fun h => ⟨h.region, h.accounts⟩, fun h => ⟨h.1, h.2⟩⟩
  · exact spansAccounts_congr ⟨.symm, .symm⟩
  · have hv := alike_of_eqvGen regionV placedV
    have hw := alike_of_eqvGen regionW placedW
    exact spansAccounts_congr
      ⟨fun h => (hv.symm.trans h).trans hw, fun h => (hv.trans h).trans hw.symm⟩

end Registry

/-- A VPC of a placement. -/
def Vpc.sampleAt (placement : Placement) : Vpc where
  name := "App"
  region := "us-east-1"
  placement
  cidrs := []
  ipamPool := none

/-- A unit of accounts gives way to its member, and a single account to the unit that it is the
only member of. Neither changes how the VPCs are classified: as they differ in their accounts,
their peering spans accounts, and that of a VPC with itself does not. -/
theorem spansAccounts_determined_sample :
    let r := Topology.sampleSpread.registry
    let single : Vpc := .sampleAt (.single "Workload")
    let chosen : Vpc := .sampleAt (.targets { organizationalUnits := ["apps"] })
    let both : Vpc := .sampleAt (.targets ⟨["Network"], ["apps"], []⟩)
    let listed : Vpc := .sampleAt (.targets ⟨["Workload", "Network", "Workload"], [], []⟩)
    r.spansAccounts single both = true ∧ r.spansAccounts chosen listed = true ∧
      r.spansAccounts both listed = false ∧ r.spansAccounts both single = true := by
  intro r single chosen both listed
  obtain ⟨decided, symmetric, rewritten⟩ := Registry.spansAccounts_determined r
  have toChosen : Relation.EqvGen (Placement.Rewrites r) single.placement chosen.placement :=
    .rel _ _ (.chosen (by decide))
  have toListed : Relation.EqvGen (Placement.Rewrites r) both.placement listed.placement := by
    refine .trans _ _ _ (.rel _ _ (@Placement.Rewrites.spelledOut r ["Network"] [] [] [] "apps")) ?_
    refine .rel _ _ (.relisted (fun name => ?_) (fun _ => Iff.rfl) fun _ => Iff.rfl)
    have members : r.accountsIn "apps" = ["Workload"] := by decide
    rw [members]
    simp only [List.mem_append, List.mem_cons, List.not_mem_nil, or_false]
    tauto
  have differ : r.spansAccounts single both = true := by decide
  refine ⟨differ, ?_, (decided both listed).mpr ⟨rfl, ?_⟩, (symmetric both single).trans differ⟩
  · rw [← rewritten single both chosen listed rfl rfl toChosen toListed]
    exact differ
  · exact fun _ => Registry.mem_placed_of_eqvGen toListed

/-! ## The routes of a side -/

namespace Vantage

variable {v : Vantage} {t : Topology} {side : PeeringSide} {c : Connection} {s s' : Run}
  {r : Connection × RouteBatch}

/-- The unit writes all routes of a side itself if the side is of the unit's scope, and none of
them otherwise. -/
theorem planSide_sorts (run : (v.planSide t side c).run s = .ok r s') :
    if (c.endOn side).scope = v.caller then r.2.crossAccountRoutes = [] else r.2.routes = [] := by
  by_cases open_ : c.stage.isDone side = false
  · obtain ⟨-, -, realized⟩ := ((planSide_pending s.plannedRoutes open_).ok rfl run).2
    have own : ∀ e ∈ RouteEntry.pending s.plannedRoutes (entriesOn t side c),
        e.own = c.endOn side := by
      intro e he
      obtain ⟨vpc, r, -, -, rfl⟩ := mem_entriesOn (RouteEntry.pending_sublist.subset he)
      rfl
    split
    · next here =>
      have none : (RouteEntry.pending s.plannedRoutes (entriesOn t side c)).filter
          (!·.isDirect v) = [] := by
        rw [List.filter_eq_nil_iff]
        intro e he
        simp [RouteEntry.isDirect, own e he, here]
      have delegated := realized.delegated
      rw [none] at delegated
      exact List.forall₂_nil_right_iff.mp delegated
    · next elsewhere =>
      have none : (RouteEntry.pending s.plannedRoutes (entriesOn t side c)).filter
          (·.isDirect v) = [] := by
        rw [List.filter_eq_nil_iff]
        intro e he
        simp [RouteEntry.isDirect, own e he, elsewhere]
      have direct := realized.direct
      rw [none] at direct
      exact List.forall₂_nil_right_iff.mp direct
  · rw [planSide_done (eq_true_of_ne_false open_)] at run
    cases run
    split <;> rfl

end Vantage

/-! ## Connections of one scope, and others -/

namespace Topology

variable {t : Topology} {pathPrefix : String} {cs : List Connection} {c : Connection}
  {p : VpcPeering} {near far : Vpc} {accounts : String × String}

/-- Two lists have the same members, each once. Then every pair of a member of the first and one
of the second is a pair of one member with itself if and only if there is at most one. -/
theorem diagonal_iff {as bs : List String} (distinct : as.Nodup)
    (same : ∀ name, name ∈ as ↔ name ∈ bs) :
    (∀ pair ∈ as ×ˢ bs, pair.1 = pair.2) ↔ as.length ≤ 1 := by
  match as with
  | [] => simp
  | [a] =>
    simp only [List.length_singleton, Nat.le_refl, iff_true]
    intro pair hpair
    obtain ⟨first, second⟩ := List.mem_product.mp hpair
    rw [List.mem_singleton.mp first, List.mem_singleton.mp ((same _).mpr second)]
  | a :: b :: rest =>
    simp only [List.length_cons, Nat.reduceLeDiff, iff_false]
    intro diagonal
    have other : (a, b) ∈ (a :: b :: rest) ×ˢ bs :=
      List.mem_product.mpr ⟨List.mem_cons_self, (same b).mp (by simp)⟩
    have : a = b := diagonal _ other
    simp [this] at distinct

/-- A connection of two VPCs of one region leads from an account to the same one if and only if it
stays in one scope. -/
theorem Connects.scopes_eq_iff (h : t.Connects pathPrefix p near far accounts c)
    (region : near.region = far.region) :
    c.requester.scope = c.accepter.scope ↔ accounts.1 = accounts.2 := by
  rw [h.requester.scope, h.accepter.scope, Scope.mk.injEq]
  exact and_iff_left region

/-- The connections of a peering of two VPCs that are alike all stay in one scope if and only if
the VPCs are deployed to no more than one account. -/
theorem Expansion.within_iff (h : t.Expansion pathPrefix cs) (hp : p ∈ t.network.vpcPeerings)
    (names : p.vpcs = [near.name, far.name]) (foundNear : t.vpc? near.name = some near)
    (foundFar : t.vpc? far.name = some far) (alike : t.registry.Alike near far) :
    (∀ c ∈ cs, c.name = p.name → c.requester.scope = c.accepter.scope) ↔
      (t.registry.vpcAccounts near).length ≤ 1 := by
  obtain ⟨near', far', names', foundNear', foundFar', -, connects⟩ := h.pairs p hp
  obtain ⟨sameNear, sameFar⟩ : near.name = near'.name ∧ far.name = far'.name := by
    simpa using names.symm.trans names'
  obtain rfl : near = near' := Option.some.inj (foundNear.symm.trans (sameNear ▸ foundNear'))
  obtain rfl : far = far' := Option.some.inj (foundFar.symm.trans (sameFar ▸ foundFar'))
  rw [← diagonal_iff (t.registry.nodup_vpcAccounts near) alike.accounts]
  constructor
  · intro within pair hpair
    obtain ⟨c, hc, connected⟩ := exists_of_forall₂ connects.flip hpair
    obtain ⟨listed, named⟩ := List.mem_filter.mp hc
    exact (connected.scopes_eq_iff alike.region).mp (within c listed (beq_iff_eq.mp named))
  · intro diagonal c hc named
    have ofPeering : c ∈ cs.filter (·.name == p.name) :=
      List.mem_filter.mpr ⟨hc, beq_iff_eq.mpr named⟩
    obtain ⟨pair, hpair, connected⟩ := exists_of_forall₂ connects ofPeering
    exact (connected.scopes_eq_iff alike.region).mpr (diagonal pair hpair)

/-- What comes of a pass over a side of a connection in the unit that requests the connection,
however far the connection is planned. -/
def Yields (t : Topology) (c : Connection) (side : PeeringSide) (P : RouteBatch → Prop) : Prop :=
  ∀ (v : Vantage) (c' : Connection) (s s' : Run) (r : Connection × RouteBatch),
    v.caller = c.requester.scope → c'.described = c →
      (v.planSide t side c').run s = .ok r s' → P r.2

theorem yields_direct {side : PeeringSide} (here : (c.endOn side).scope = c.requester.scope) :
    t.Yields c side (·.crossAccountRoutes = []) := by
  intro v c' s s' r caller same run
  have sorted := Vantage.planSide_sorts run
  rwa [← Connection.endOn_described, same, caller, if_pos here] at sorted

theorem yields_delegated {side : PeeringSide}
    (elsewhere : (c.endOn side).scope ≠ c.requester.scope) : t.Yields c side (·.routes = []) := by
  intro v c' s s' r caller same run
  have sorted := Vantage.planSide_sorts run
  rwa [← Connection.endOn_described, same, caller, if_neg elsewhere] at sorted

/-- What holds of a connection if its peering does not span accounts or regions. -/
structure Unspanned (t : Topology) (cs : List Connection) (c : Connection) : Prop where
  region : c.requester.scope.region = c.accepter.scope.region
  /-- Both VPCs are deployed to the same accounts. All connections of the peering stay in one
  scope if and only if there is at most one account, as there is if either VPC has a single
  account. -/
  deployed : ∃ near far, t.vpc? c.requester.vpc = some near ∧ t.vpc? c.accepter.vpc = some far ∧
    (∀ account, account ∈ t.registry.vpcAccounts near ↔ account ∈ t.registry.vpcAccounts far) ∧
    ((∀ c' ∈ cs, c'.name = c.name → c'.requester.scope = c'.accepter.scope) ↔
      (t.registry.vpcAccounts near).length ≤ 1) ∧
    (near.placement.isTemplated = false ∨ far.placement.isTemplated = false →
      c.requester.scope = c.accepter.scope)
  /-- A connection that stays in one scope is accepted without a role. -/
  role : c.peerRoleName = none ↔ c.requester.scope = c.accepter.scope
  /-- Of a connection that stays in one scope the unit that requests it writes all routes
  itself. -/
  within : c.requester.scope = c.accepter.scope →
    ∀ side, t.Yields c side (·.crossAccountRoutes = [])
  /-- Of another one it writes the routes of the requester, and none of the accepter. -/
  across : c.requester.scope ≠ c.accepter.scope →
    t.Yields c .requester (·.crossAccountRoutes = []) ∧ t.Yields c .accepter (·.routes = [])

/-- A VPC of a single account is deployed to no more than one. -/
theorem length_vpcAccounts_le {r : Registry} {v : Vpc} (single : v.placement.isTemplated = false) :
    (r.vpcAccounts v).length ≤ 1 := by
  unfold Registry.vpcAccounts
  cases placement : v.placement with
  | single account => exact Nat.le_refl 1
  | targets choice =>
    rw [placement] at single
    exact nomatch single

theorem Expansion.unspanned (h : t.Expansion pathPrefix cs) (hc : c ∈ cs)
    (unspanned : c.crossAccount = false) : t.Unspanned cs c := by
  obtain ⟨p, hp, near, far, accounts, names, foundNear, foundFar, pair, connects⟩ := h.made_of hc
  have alike : t.registry.Alike near far :=
    Registry.spansAccounts_eq_false.mp (connects.crossAccount.symm.trans unspanned)
  have staying := connects.scopes_eq_iff alike.region
  have within := h.within_iff hp names foundNear foundFar alike
  have counted : (t.registry.vpcAccounts near).length = (t.registry.vpcAccounts far).length :=
    ((List.perm_ext_iff_of_nodup (t.registry.nodup_vpcAccounts near)
      (t.registry.nodup_vpcAccounts far)).mpr alike.accounts).length_eq
  constructor
  case region =>
    rw [connects.requester.scope, connects.accepter.scope]
    exact alike.region
  case deployed =>
    rw [connects.requester.vpc, connects.accepter.vpc, connects.name]
    refine ⟨near, far, foundNear, foundFar, alike.accounts, within, ?_⟩
    rintro (single | single)
    · exact within.mpr (length_vpcAccounts_le single) c hc connects.name
    · exact within.mpr (counted ▸ length_vpcAccounts_le single) c hc connects.name
  case role =>
    rw [staying, connects.role]
    by_cases same : accounts.1 = accounts.2
    · simp [same]
    · simp [same]
  case within =>
    rintro one (side | side)
    · exact yields_direct rfl
    · exact yields_direct one.symm
  case across =>
    exact fun two => ⟨yields_direct rfl, yields_delegated (Ne.symm two)⟩

/-- A connection of a valid topology whose peering is not classified as spanning accounts or
regions pairs two of the accounts that both its VPCs are deployed to. Where it pairs an account
with itself, it stays in one scope, has no role, and is routed by the unit that requests it. -/
theorem connections_of_unspanned (valid : t.validate = .ok ()) {scope : Scope}
    (made : t.connections t.registry scope pathPrefix = .ok cs) (hc : c ∈ cs)
    (unspanned : c.crossAccount = false) : t.Unspanned cs c := by
  obtain ⟨all, expansion⟩ := (faultless_of_validate valid).expansion pathPrefix
  obtain rfl : all = cs := Except.ok.inj ((expansion.made scope).symm.trans made)
  exact expansion.unspanned hc unspanned

theorem exists_of_any {ε α : Type} {x : Except ε α} {check : α → Bool}
    (h : x.toOption.any check = true) : ∃ a, x = .ok a ∧ check a = true := by
  cases x with
  | error e => exact nomatch h
  | ok a => exact ⟨a, rfl, h⟩

/-- The sample with both VPCs deployed to both accounts. -/
def sampleEverywhere : Topology :=
  { sample with
    network := { sample.network with
      vpcs := sample.network.vpcs.map fun v =>
        { v with placement := .targets { accounts := ["Network", "Workload"] } } } }

/-- Of the four connections of the sample two stay in one scope, and two do not. -/
theorem connections_of_unspanned_sample :
    sampleEverywhere.validate = .ok () ∧ ∃ cs,
      sampleEverywhere.connections sampleEverywhere.registry ⟨"Network", "us-east-1"⟩ "accel" =
        .ok cs ∧
      (∃ c ∈ cs, c.requester.scope = c.accepter.scope ∧ sampleEverywhere.Unspanned cs c) ∧
      ∃ c ∈ cs, c.requester.scope ≠ c.accepter.scope ∧ sampleEverywhere.Unspanned cs c := by
  have check : ((sampleEverywhere.connections sampleEverywhere.registry ⟨"Network", "us-east-1"⟩
      "accel").toOption.any fun cs => decide
        ((∃ c ∈ cs, c.requester.scope = c.accepter.scope ∧ c.crossAccount = false) ∧
          ∃ c ∈ cs, c.requester.scope ≠ c.accepter.scope ∧ c.crossAccount = false)) = true := by
    decide +kernel
  obtain ⟨cs, made, both⟩ := exists_of_any check
  obtain ⟨⟨c, hc, one, flag⟩, c', hc', two, flag'⟩ := of_decide_eq_true both
  exact ⟨rfl, cs, made, ⟨c, hc, one, connections_of_unspanned rfl made hc flag⟩, c', hc', two,
    connections_of_unspanned rfl made hc' flag'⟩

/-- Two VPCs that are deployed to the same two accounts have a peering that does not span
accounts. But one of its connections leads from the one account to the other: it is accepted
under a role, and the unit that requests it plans a route to be written elsewhere. -/
theorem unspanned_connection_crosses :
    sampleEverywhere.validate = .ok () ∧ ∃ cs,
      sampleEverywhere.connections sampleEverywhere.registry ⟨"Network", "us-east-1"⟩ "accel" =
        .ok cs ∧
      ∃ c ∈ cs, c.crossAccount = false ∧ c.requester.scope ≠ c.accepter.scope ∧
        c.peerRoleName = some "accel-VpcPeeringRole-us-east-1" ∧
        ∃ r s, ((sampleEverywhere.vantage c.requester.scope
            (.fixed fun _ => .value "id")).planSide sampleEverywhere .accepter c).run {} = .ok r s ∧
          r.2.crossAccountRoutes ≠ [] := by
  have check : ((sampleEverywhere.connections sampleEverywhere.registry ⟨"Network", "us-east-1"⟩
      "accel").toOption.any fun cs => decide
        (∃ c ∈ cs, c.crossAccount = false ∧ c.requester.scope ≠ c.accepter.scope ∧
          c.peerRoleName = some "accel-VpcPeeringRole-us-east-1" ∧
          ((sampleEverywhere.vantage c.requester.scope (.fixed fun _ => .value "id")).planSide
            sampleEverywhere .accepter c).comesTo (fun r => decide (r.2.crossAccountRoutes ≠ [])) =
              true)) = true := by
    decide +kernel
  obtain ⟨cs, made, crossing⟩ := exists_of_any check
  obtain ⟨c, hc, flag, two, role, planned⟩ := of_decide_eq_true crossing
  obtain ⟨r, s, run, some⟩ := Lookup.exists_of_comesTo planned
  exact ⟨rfl, cs, made, c, hc, flag, two, role, r, s, run, of_decide_eq_true some⟩

end Topology

end Interlink
