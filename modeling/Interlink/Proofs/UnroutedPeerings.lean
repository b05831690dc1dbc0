import Interlink.Proofs.ConnectionKeys
import Interlink.Proofs.Deployment
import Interlink.Proofs.PassOrder
import Interlink.Topology.Lint

/-!
# Peerings without routes

The lint warns of a peering that no route of its VPCs leads over. It looks through the
VPCs as they are described, and a unit plans routes for each connection of the peering, in
two passes and for each account that a VPC is deployed to. The warning tells what comes of
these passes (`unrouted_peerings_warned`). If there is one, a pass over a connection of the
peering does nothing at all. If there is none, the passes over each connection plan a route.

Both sides of a connection are VPCs of its peering, so the entries that its passes go
through are there or not for all connections of a peering alike. An entry is passed over if
its key is noted. The passes over other connections of the same peering note no key of this
one: keys of connections begin the keys of their routes, and within a peering they are
different and equally long.
-/

namespace Interlink

/-! ## What the lint reads -/

namespace Topology

variable {t : Topology} {p : VpcPeering}

/-- A route of one of the VPCs of a peering leads over it. -/
def RoutedOver (t : Topology) (p : VpcPeering) : Prop :=
  ∃ vpc ∈ t.network.vpcs, vpc.name ∈ p.vpcs ∧ ∃ table ∈ vpc.routeTables, ∃ r ∈ table.routes,
    r.type = .vpcPeering ∧ r.target = some p.name

theorem isRouted_iff : t.isRouted p = true ↔ t.RoutedOver p := by
  simp only [isRouted, RoutedOver, VpcRoute.targetsPeering, List.any_eq_true, List.mem_filter,
    List.contains_iff_mem, Bool.and_eq_true, beq_iff_eq, and_assoc]

theorem Faultless.unrouted_iff (faultless : t.Faultless) (hp : p ∈ t.network.vpcPeerings) :
    .unroutedPeering p.name ∈ t.lint ↔ ¬ t.RoutedOver p := by
  have listed : .unroutedPeering p.name ∈ t.lint ↔
      ∃ q ∈ t.network.vpcPeerings, t.isRouted q = false ∧ q.name = p.name := by
    simp [lint, and_assoc]
  rw [listed, ← isRouted_iff, Bool.not_eq_true]
  constructor
  · rintro ⟨q, hq, unrouted, name⟩
    rwa [List.inj_on_of_nodup_map faultless.peering_names_nodup hq hp name] at unrouted
  · exact fun unrouted => ⟨p, hp, unrouted, rfl⟩

end Topology

theorem Vpc.routesOver_ne_nil_iff {vpc : Vpc} {peering : String} : vpc.routesOver peering ≠ [] ↔
    ∃ table ∈ vpc.routeTables, ∃ r ∈ table.routes,
      r.type = .vpcPeering ∧ r.target = some peering := by
  simp [routesOver, VpcRoute.targetsPeering, List.flatMap_eq_nil_iff]

/-! ## What the passes go through -/

namespace Topology

open Vantage

variable {t : Topology} {p : VpcPeering} {pathPrefix : String} {cs : List Connection}
  {c c' : Connection} {near far : Vpc} {accounts accounts' : String × String}

/-- The connections of a peering are those of its two VPCs, one for each pair of accounts. -/
theorem Expansion.ofPeering (h : t.Expansion pathPrefix cs) (hp : p ∈ t.network.vpcPeerings) :
    ∃ near far, p.vpcs = [near.name, far.name] ∧ t.vpc? near.name = some near ∧
      t.vpc? far.name = some far ∧
      (∀ c ∈ cs, c.name = p.name → ∃ accounts ∈ t.registry.accountPairs near far,
        t.Connects pathPrefix p near far accounts c) ∧
      ∀ accounts ∈ t.registry.accountPairs near far, ∃ c ∈ cs, c.name = p.name := by
  obtain ⟨near, far, names, foundNear, foundFar, -, connects⟩ := h.pairs p hp
  refine ⟨near, far, names, foundNear, foundFar, fun c hc name => ?_, fun accounts pair => ?_⟩
  · exact exists_of_forall₂ connects (List.mem_filter.mpr ⟨hc, beq_iff_eq.mpr name⟩)
  · obtain ⟨c, hc, -⟩ := exists_of_forall₂ connects.flip pair
    obtain ⟨hc, name⟩ := List.mem_filter.mp hc
    exact ⟨c, hc, beq_iff_eq.mp name⟩

/-- The VPCs of a connection are found. -/
theorem Connects.vpc?_endOn (foundNear : t.vpc? near.name = some near)
    (foundFar : t.vpc? far.name = some far)
    (connects : t.Connects pathPrefix p near far accounts c) :
    t.vpc? (c.endOn .requester).vpc = some near ∧ t.vpc? (c.endOn .accepter).vpc = some far := by
  rw [Connection.endOn, Connection.endOn, connects.requester.vpc, connects.accepter.vpc]
  exact ⟨foundNear, foundFar⟩

theorem Faultless.routedOver_iff_of_vpcs (faultless : t.Faultless)
    (names : p.vpcs = [near.name, far.name]) (foundNear : t.vpc? near.name = some near)
    (foundFar : t.vpc? far.name = some far) :
    t.RoutedOver p ↔ near.routesOver p.name ≠ [] ∨ far.routesOver p.name ≠ [] := by
  simp only [RoutedOver, Vpc.routesOver_ne_nil_iff, names, List.mem_pair]
  constructor
  · rintro ⟨vpc, hvpc, name | name, leads⟩
    · exact .inl (faultless.vpc_eq hvpc (vpc?_some foundNear).1 name ▸ leads)
    · exact .inr (faultless.vpc_eq hvpc (vpc?_some foundFar).1 name ▸ leads)
  · rintro (leads | leads)
    · exact ⟨near, (vpc?_some foundNear).1, .inl rfl, leads⟩
    · exact ⟨far, (vpc?_some foundFar).1, .inr rfl, leads⟩

theorem entriesOn_ne_nil_iff {side : PeeringSide} {vpc : Vpc}
    (found : t.vpc? (c.endOn side).vpc = some vpc) :
    entriesOn t side c ≠ [] ↔ vpc.routesOver c.name ≠ [] := by
  unfold entriesOn
  rw [found]
  exact not_congr List.map_eq_nil_iff

/-- The VPCs of a peering have routes over it if and only if there are entries on some side of a
connection. -/
theorem Faultless.routedOver_iff (faultless : t.Faultless)
    (names : p.vpcs = [near.name, far.name]) (foundNear : t.vpc? near.name = some near)
    (foundFar : t.vpc? far.name = some far)
    (connects : t.Connects pathPrefix p near far accounts c) :
    t.RoutedOver p ↔ ∃ side, entriesOn t side c ≠ [] := by
  obtain ⟨onNear, onFar⟩ := connects.vpc?_endOn foundNear foundFar
  rw [faultless.routedOver_iff_of_vpcs names foundNear foundFar, ← connects.name,
    ← entriesOn_ne_nil_iff onNear, ← entriesOn_ne_nil_iff onFar]
  constructor
  · rintro (some | some)
    · exact ⟨.requester, some⟩
    · exact ⟨.accepter, some⟩
  · rintro ⟨_ | _, some⟩
    · exact .inl some
    · exact .inr some

end Topology

/-! ## Passes that plan nothing -/

namespace Vantage

variable {v : Vantage} {t : Topology} {side : PeeringSide} {c copy : Connection} {s : Run}

/-- A pass over a side without entries does nothing. -/
theorem planSide_of_no_entries (defined : (t.vpc? (c.endOn side).vpc).isSome)
    (none : entriesOn t side c = []) (copies : copy.described = c.described) :
    ∃ moved, (v.planSide t side copy).run s = .ok (moved, {}) s := by
  cases done : copy.stage.isDone side with
  | true => exact ⟨copy, planSide_done done⟩
  | false =>
    have idle : (v.sideRoutes t side c).run s = .ok {} s :=
      sideRoutes_noted defined (by simp [keysOn, none])
    rw [← sideRoutes_described, ← copies, sideRoutes_described] at idle
    exact ⟨_, (planSide_open done).mpr ⟨{}, idle, rfl⟩⟩

end Vantage

/-! ## Keys of routes over one peering -/

namespace Topology

open Vantage

variable {t : Topology} {p : VpcPeering} {pathPrefix : String} {cs : List Connection}
  {c c' : Connection} {near far : Vpc} {accounts accounts' : String × String}

/-- The keys of the connections of a peering have equally many ids. -/
theorem Connects.length_keyIds (h : t.Connects pathPrefix p near far accounts c) :
    c.keyIds.length = near.placement.isTemplated.toNat + far.placement.isTemplated.toNat := by
  rw [← h.requester.distinction_isSome, ← h.accepter.distinction_isSome, Connection.keyIds]
  cases c.requester.distinction <;> cases c.accepter.distinction <;> rfl

/-- The keys of the connections of a peering are equally long. -/
theorem Faultless.length_key (faultless : t.Faultless)
    (h : t.Connects pathPrefix p near far accounts c)
    (h' : t.Connects pathPrefix p near far accounts' c') :
    c.key.toList.length = c'.key.toList.length := by
  rw [h.key_toList, h'.key_toList, List.length_append, List.length_append, h.name, h'.name,
    Key.length_behind (faultless.length_of_keyIds h),
    Key.length_behind (faultless.length_of_keyIds h'), h.length_keyIds, h'.length_keyIds]

/-- Different connections of a peering have different keys. -/
theorem Faultless.accounts_eq_of_key (faultless : t.Faultless)
    (pair : accounts ∈ t.registry.accountPairs near far)
    (pair' : accounts' ∈ t.registry.accountPairs near far)
    (h : t.Connects pathPrefix p near far accounts c)
    (h' : t.Connects pathPrefix p near far accounts' c') (same : c.key = c'.key) :
    accounts = accounts' := by
  have texts := congrArg String.toList same
  rw [h.key_toList, h'.key_toList, h.name, h'.name, List.append_cancel_left_eq] at texts
  refine faultless.accounts_eq_of_keyIds pair pair' h h' ?_
  exact Key.behind_injective (faultless.length_of_keyIds h) (faultless.length_of_keyIds h')
    (h.length_keyIds.trans h'.length_keyIds.symm) texts

/-- The key of a route begins with that of its connection. -/
theorem key_of_mem_entriesOn {side : PeeringSide} {e : RouteEntry} (he : e ∈ entriesOn t side c) :
    ∃ rest, e.key.toList = c.key.toList ++ rest := by
  obtain ⟨vpc, r, -, -, rfl⟩ := mem_entriesOn he
  exact ⟨_, by simp [RouteEntry.key, Key.route, entry]; rfl⟩

/-- A key of a route tells the connection of the peering. -/
theorem Faultless.eq_of_entry_keys (faultless : t.Faultless) (h : t.Expansion pathPrefix cs)
    (hc : c ∈ cs) (hc' : c' ∈ cs) (pair : accounts ∈ t.registry.accountPairs near far)
    (pair' : accounts' ∈ t.registry.accountPairs near far)
    (connects : t.Connects pathPrefix p near far accounts c)
    (connects' : t.Connects pathPrefix p near far accounts' c') {side side' : PeeringSide}
    {e e' : RouteEntry} (he : e ∈ entriesOn t side c) (he' : e' ∈ entriesOn t side' c')
    (same : e.key = e'.key) : c = c' := by
  obtain ⟨rest, key⟩ := key_of_mem_entriesOn he
  obtain ⟨rest', key'⟩ := key_of_mem_entriesOn he'
  have texts : c.key.toList ++ rest = c'.key.toList ++ rest' := by rw [← key, ← key', same]
  have keys := (List.append_inj texts (faultless.length_key connects connects')).1
  have accounts := faultless.accounts_eq_of_key pair pair' connects connects'
    (String.toList_inj.mp keys)
  refine List.inj_on_of_nodup_map (h.identities_nodup faultless) hc hc' ?_
  rw [connects.identity, connects'.identity, accounts]

end Topology

/-! ## Passes that plan a route -/

theorem RouteBatch.size_pos_of_mem {b : RouteBatch} {k : String} (hk : k ∈ b.keys) :
    0 < b.size := by
  have many : b.keys.length = b.size := by
    simp [keys, size]
  exact many ▸ List.length_pos_of_mem hk

namespace Pass

open Vantage

variable {t : Topology} {ps : List (Pass t)} {q : Pass t} {c : Connection} {e : RouteEntry}

theorem exists_entry_of_key {k : String} (hk : k ∈ q.batch.keys) : ∃ e ∈ q.entries, e.key = k := by
  obtain ⟨e, he, same⟩ := List.mem_map.mp (q.plans.2.mem_iff.mp hk)
  exact ⟨e, RouteEntry.pending_sublist.subset he, same⟩

/-- Where nothing is planned, a route is emitted for the key of every entry, by some pass. -/
theorem exists_emitter (chained : Chained .empty ps) (hq : q ∈ ps) (he : e ∈ q.entries) :
    ∃ q' ∈ ps, e.key ∈ q'.batch.keys := by
  have new : (SortedMap.empty : NameSet).contains e.key = false := rfl
  have met : e.key ∈ (ps.flatMap entries).map RouteEntry.key :=
    List.mem_map_of_mem (List.mem_flatMap.mpr ⟨q, hq, he⟩)
  exact List.mem_flatMap.mp
    ((emitted_keys chained).mem_iff.mpr (RouteEntry.mem_pending_keys.mpr ⟨new, met⟩))

/-- Both sides of a connection are passed over, when they are not planned yet. -/
def Cover (ps : List (Pass t)) (c : Connection) : Prop :=
  ∀ side, ∃ q ∈ ps, q.Over c ∧ q.side = side ∧ q.connection.stage.isDone side = false

theorem Cover.of_copy {copy : Connection} (cover : Cover ps copy)
    (copies : copy.described = c.described) : Cover ps c := by
  intro side
  obtain ⟨q, hq, ofCopy, same, open_⟩ := cover side
  exact ⟨q, hq, ofCopy.trans copies, same, open_⟩

/-- Both passes over a connection, as passes one after the other. -/
theorem of_planBoth {v : Vantage} {first : PeeringSide} {s s' : Run}
    {r : Connection × RouteBatch × RouteBatch} (classified : c.stage = .classified)
    (run : (v.planBoth t first c).run s = .ok r s') :
    ∃ ps : List (Pass t), Chained s.plannedRoutes ps ∧ Cover ps c ∧
      ∀ q ∈ ps, q.Over c ∧ (q.batch = r.2.1 ∨ q.batch = r.2.2) := by
  obtain ⟨near, s₁, far, one, two, rfl⟩ := (planBoth_ok classified).mp run
  have open_ (side : PeeringSide) : c.stage.isDone side = false := by
    rw [classified]
    rfl
  let nearPass : Pass t :=
    { vantage := v, side := first, connection := c, before := s, moved := advance first c
      batch := near, after := s₁, run := (planSide_open (open_ first)).mpr ⟨near, one, rfl⟩ }
  let farPass : Pass t :=
    { vantage := v, side := first.other, connection := c, before := s₁
      moved := advance first.other c, batch := far, after := s'
      run := (planSide_open (open_ first.other)).mpr ⟨far, two, rfl⟩ }
  refine ⟨[nearPass, farPass], ⟨rfl, rfl, trivial⟩, fun side => ?_, fun q hq => ?_⟩
  · rcases side.eq_or_eq_other first with rfl | rfl
    · exact ⟨nearPass, List.mem_cons_self, rfl, rfl, open_ _⟩
    · exact ⟨farPass, List.mem_cons_of_mem _ (List.mem_singleton_self _), rfl, rfl, open_ _⟩
  · rcases List.mem_pair.mp hq with rfl | rfl
    · exact ⟨rfl, .inl rfl⟩
    · exact ⟨rfl, .inr rfl⟩

end Pass

/-! ## What the warning tells -/

namespace Topology

open Vantage

variable {t : Topology} {p : VpcPeering} {pathPrefix : String} {cs : List Connection}
  {c : Connection}

/-- If a peering has routes, and both sides of one of its connections are passed over, then a route
over that connection is emitted. It does not matter which of the peering's connections are passed
over before or in between, and by which units. -/
theorem Faultless.emits_of_routed (faultless : t.Faultless) (h : t.Expansion pathPrefix cs)
    (hp : p ∈ t.network.vpcPeerings) (routed : t.RoutedOver p) (hc : c ∈ cs)
    (name : c.name = p.name) {ps : List (Pass t)} (chained : Pass.Chained .empty ps)
    (ofPeering : ∀ q ∈ ps, ∃ c ∈ cs, c.name = p.name ∧ q.Over c) (cover : Pass.Cover ps c) :
    ∃ q ∈ ps, q.Over c ∧ 0 < q.batch.size := by
  obtain ⟨near, far, names, foundNear, foundFar, connects, -⟩ := h.ofPeering hp
  obtain ⟨accounts, pair, connected⟩ := connects c hc name
  obtain ⟨side, some⟩ :=
    (faultless.routedOver_iff names foundNear foundFar connected).mp routed
  obtain ⟨e, he⟩ := List.exists_mem_of_ne_nil _ some
  obtain ⟨q, hq, copies, rfl, open_⟩ := cover side
  have met : e ∈ q.entries := by
    rw [Pass.entries_of_over copies, if_neg (by simp [open_])]
    exact he
  -- The pass that emits the key may be over another copy, but of no other connection.
  obtain ⟨q', hq', emitted⟩ := Pass.exists_emitter chained hq met
  obtain ⟨c', hc', name', copies'⟩ := ofPeering q' hq'
  obtain ⟨accounts', pair', connected'⟩ := connects c' hc' name'
  obtain ⟨e', met', same⟩ := Pass.exists_entry_of_key emitted
  have he' : e' ∈ entriesOn t q'.side c' := by
    rw [Pass.entries_of_over copies'] at met'
    split at met'
    · exact nomatch met'
    · exact met'
  obtain rfl : c = c' :=
    faultless.eq_of_entry_keys h hc hc' pair pair' connected connected' he he' same.symm
  exact ⟨q', hq', copies', RouteBatch.size_pos_of_mem emitted⟩

/-- The warning of a peering, held against what is planned for its connections. -/
structure PeeringWarned (t : Topology) (p : VpcPeering) (cs : List Connection) : Prop where
  /-- There is a warning if and only if no route of the two VPCs leads over the peering. -/
  warned_iff : .unroutedPeering p.name ∈ t.lint ↔ ¬ t.RoutedOver p
  /-- If there is one, a pass over a connection of the peering does nothing, whichever unit makes
  it, with whatever backend, and whatever has been done before: its batch is empty, and the run is
  as it was, without another call. -/
  idle : .unroutedPeering p.name ∈ t.lint → ∀ c ∈ cs, c.name = p.name →
    ∀ (v : Vantage) (side : PeeringSide) (copy : Connection) (s : Run),
      copy.described = c.described → ∃ moved, (v.planSide t side copy).run s = .ok (moved, {}) s
  /-- Where both VPCs are deployed there are connections. -/
  connected : ∀ near far, p.vpcs = [near.name, far.name] → t.vpc? near.name = some near →
    t.vpc? far.name = some far → t.registry.vpcAccounts near ≠ [] →
      t.registry.vpcAccounts far ≠ [] → ∃ c ∈ cs, c.name = p.name
  /-- If there is no warning, the two passes over a connection plan a route, where nothing has been
  planned before. -/
  routed : .unroutedPeering p.name ∉ t.lint → ∀ c ∈ cs, c.name = p.name →
    ∀ (v : Vantage) (first : PeeringSide) (copy : Connection) (s : Run),
      copy.described = c.described → copy.stage = .classified → s.plannedRoutes = .empty →
        ∀ r s', (v.planBoth t first copy).run s = .ok r s' → 0 < r.2.1.size + r.2.2.size
  /-- The same if only connections of the peering have been passed over before. -/
  together : .unroutedPeering p.name ∉ t.lint → ∀ ps : List (Pass t), Pass.Chained .empty ps →
    (∀ q ∈ ps, ∃ c ∈ cs, c.name = p.name ∧ q.Over c) → ∀ c ∈ cs, c.name = p.name →
      Pass.Cover ps c → ∃ q ∈ ps, q.Over c ∧ 0 < q.batch.size

end Topology

open Interlink.Topology in
/-- In a valid topology the warning of a peering without routes tells what the units plan for its
connections. -/
theorem unrouted_peerings_warned {t : Topology} (valid : t.validate = .ok ()) {p : VpcPeering}
    (hp : p ∈ t.network.vpcPeerings) (pathPrefix : String) :
    ∃ cs, t.Expansion pathPrefix cs ∧ t.PeeringWarned p cs := by
  have faultless := faultless_of_validate valid
  obtain ⟨cs, h⟩ := faultless.expansion pathPrefix
  have warned_iff := faultless.unrouted_iff hp
  have routedOver (unwarned : .unroutedPeering p.name ∉ t.lint) : t.RoutedOver p :=
    not_not.mp (mt warned_iff.mpr unwarned)
  obtain ⟨near, far, names, foundNear, foundFar, connects, every⟩ := h.ofPeering hp
  refine ⟨cs, h, warned_iff, ?idle, ?connected, ?routed, ?together⟩
  case idle =>
    intro warned c hc name v side copy s copies
    obtain ⟨accounts, pair, connected⟩ := connects c hc name
    have none : Vantage.entriesOn t side c = [] := by
      by_contra some
      exact warned_iff.mp warned
        ((faultless.routedOver_iff names foundNear foundFar connected).mpr ⟨side, some⟩)
    refine Vantage.planSide_of_no_entries ?_ none copies
    obtain ⟨onNear, onFar⟩ := connected.vpc?_endOn foundNear foundFar
    cases side with
    | requester => rw [onNear]; rfl
    | accepter => rw [onFar]; rfl
  case connected =>
    intro near' far' names' foundNear' foundFar' nearDeployed farDeployed
    rw [names, List.cons.injEq, List.cons.injEq] at names'
    obtain ⟨sameNear, sameFar, -⟩ := names'
    rw [← sameNear, foundNear] at foundNear'
    rw [← sameFar, foundFar] at foundFar'
    cases foundNear'
    cases foundFar'
    obtain ⟨x, hx⟩ := List.exists_mem_of_ne_nil _ nearDeployed
    obtain ⟨y, hy⟩ := List.exists_mem_of_ne_nil _ farDeployed
    exact every (x, y) (List.mem_product.mpr ⟨hx, hy⟩)
  case routed =>
    intro unwarned c hc name v first copy s copies classified fresh r s' run
    obtain ⟨ps, chained, cover, batches⟩ := Pass.of_planBoth classified run
    rw [fresh] at chained
    obtain ⟨q, hq, -, some⟩ := faultless.emits_of_routed h hp (routedOver unwarned) hc name chained
      (fun q hq => ⟨c, hc, name, (batches q hq).1.trans copies⟩) (cover.of_copy copies)
    rcases (batches q hq).2 with same | same
    · rw [same] at some
      omega
    · rw [same] at some
      omega
  case together =>
    intro unwarned ps chained ofPeering c hc name cover
    exact faultless.emits_of_routed h hp (routedOver unwarned) hc name chained ofPeering cover

/-- The peering of the sample. -/
def VpcPeering.sample : VpcPeering := { name := "AppShared", vpcs := ["App", "Shared"] }

/-- The sample without the routes of its VPCs. -/
def Topology.sampleIdle : Topology :=
  { sample with
    network := { sample.network with
      vpcs := sample.network.vpcs.map fun vpc => { vpc with routeTables := [] } } }

open Interlink.Topology in
/-- In the sample the passes over the connection plan a route. Without routes of the VPCs there is
a warning, and a connection that it is about. -/
theorem unrouted_peerings_warned_sample :
    (∃ cs, sample.Expansion "accel" cs ∧ sample.PeeringWarned .sample cs ∧ sample.lint = [] ∧
      ∃ c ∈ cs, c.name = "AppShared" ∧
        ∃ r s', (sample.workload.planBoth sample .requester c).run {} = .ok r s' ∧
          0 < r.2.1.size + r.2.2.size) ∧
    ∃ cs, sampleIdle.Expansion "accel" cs ∧ sampleIdle.PeeringWarned .sample cs ∧
      sampleIdle.lint = [.unroutedPeering "AppShared"] ∧ ∃ c ∈ cs, c.name = "AppShared" := by
  constructor
  · obtain ⟨cs, expansion, warned⟩ :=
      unrouted_peerings_warned sample_valid (p := .sample) (by decide) "accel"
    obtain ⟨c, hc, name⟩ := warned.connected sample.network.vpcs[0] sample.network.vpcs[1] rfl
      rfl rfl (by decide) (by decide)
    have planned : ((sample.connections sample.registry ⟨"Workload", "us-east-1"⟩ "accel").map
        fun cs => cs.all fun c => c.stage == .classified &&
          (sample.workload.planBoth sample .requester c).comesTo fun _ => true) = .ok true := by
      decide +kernel
    rw [expansion.made] at planned
    have ofConnection := List.all_eq_true.mp (Except.ok.inj planned) c hc
    rw [Bool.and_eq_true, beq_iff_eq] at ofConnection
    obtain ⟨r, s', run, -⟩ := Lookup.exists_of_comesTo ofConnection.2
    exact ⟨cs, expansion, warned, by decide +kernel, c, hc, name, r, s', run,
      warned.routed (by decide +kernel) c hc name _ _ c _ rfl ofConnection.1 rfl r s' run⟩
  · obtain ⟨cs, expansion, warned⟩ :=
      unrouted_peerings_warned (t := sampleIdle) rfl (p := .sample) (by decide) "accel"
    exact ⟨cs, expansion, warned, by decide +kernel,
      warned.connected sampleIdle.network.vpcs[0] sampleIdle.network.vpcs[1] rfl rfl rfl
        (by decide) (by decide)⟩

end Interlink
