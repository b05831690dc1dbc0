import Interlink.Proofs.Stages
import Mathlib.Data.List.Forall2

/-!
# Which routes over peerings are planned

A unit plans the routes of both sides of its connections, and passes over an
entry whose key it has met before. The key is joined from names that nothing
keeps apart: neither the entries nor the route tables of a VPC have to have
different names. So an entry may be lost, and `planned_iff_keys_differ` says
exactly when: the routes that are planned are, in order and one for one, the
entries that come first under their keys, and these are all of them if and only
if no two entries have one key.
-/

namespace Interlink

/-! ## Entries -/

/-- An entry of a VPC's route table that leads over a connection. -/
structure RouteEntry where
  connectionKey : String
  side : PeeringSide
  /-- The end that the route is for. -/
  own : PeeringEnd
  /-- The end that the route leads to. -/
  peer : PeeringEnd
  table : String
  route : VpcRoute
deriving DecidableEq, Repr, Inhabited

namespace RouteEntry

/-- The key under which the entry is planned. -/
def key (e : RouteEntry) : String := Key.route e.connectionKey e.own.vpc e.table e.route.name

/-- Whether the unit writes the route itself. -/
def isDirect (v : Vantage) (e : RouteEntry) : Bool := e.own.scope == v.caller

/-- Of entries that follow others, those whose key is new. -/
def newFrom (earlier es : List RouteEntry) : List RouteEntry :=
  ((withEarlierFrom earlier es).filter fun p => !(p.1.map key).contains p.2.key).map (·.2)

theorem newFrom_nil (earlier : List RouteEntry) : newFrom earlier [] = [] := rfl

theorem newFrom_cons (earlier : List RouteEntry) (e : RouteEntry) (es : List RouteEntry) :
    newFrom earlier (e :: es) =
      (if e.key ∈ earlier.map key then [] else [e]) ++ newFrom (earlier ++ [e]) es := by
  unfold newFrom
  rw [withEarlierFrom, List.filter_cons]
  by_cases known : e.key ∈ earlier.map key <;> simp [known]

theorem newFrom_sublist : ∀ earlier es : List RouteEntry, (newFrom earlier es).Sublist es
  | _, [] => .slnil
  | earlier, e :: es => by
    rw [newFrom_cons]
    have rest := newFrom_sublist (earlier ++ [e]) es
    split
    · exact rest.cons e
    · exact rest.cons_cons e

/-- Nothing is passed over if and only if no key repeats. -/
theorem newFrom_eq_self_iff : ∀ earlier es : List RouteEntry, (earlier.map key).Nodup →
    (newFrom earlier es = es ↔ ((earlier ++ es).map key).Nodup)
  | earlier, [], h => by simpa [newFrom_nil] using h
  | earlier, e :: es, h => by
    rw [newFrom_cons]
    by_cases known : e.key ∈ earlier.map key
    · rw [if_pos known]
      constructor
      · intro same
        have shorter := (newFrom_sublist (earlier ++ [e]) es).length_le
        rw [List.nil_append] at same
        rw [same, List.length_cons] at shorter
        omega
      · intro distinct
        rw [List.map_append, List.map_cons, List.nodup_append'] at distinct
        exact absurd List.mem_cons_self (distinct.2.2 known)
    · rw [if_neg known, List.singleton_append, List.cons.injEq]
      have distinct : ((earlier ++ [e]).map key).Nodup := by
        rw [List.map_append, List.map_singleton, List.nodup_append']
        exact ⟨h, List.nodup_singleton _, fun k hk he => known (List.mem_singleton.mp he ▸ hk)⟩
      have rest := newFrom_eq_self_iff (earlier ++ [e]) es distinct
      rw [List.append_assoc, List.singleton_append] at rest
      exact (and_iff_right rfl).trans rest

/-! ## Keys that are noted -/

/-- Some keys, with those of some entries. -/
def noteAll (noted : NameSet) (es : List RouteEntry) : NameSet :=
  es.foldl (fun noted e => noted.add e.key) noted

/-- Of some entries, those whose key is not noted, the first one under every key. -/
def pending (noted : NameSet) : List RouteEntry → List RouteEntry
  | [] => []
  | e :: es =>
    if noted.contains e.key then pending noted es else e :: pending (noted.add e.key) es

theorem pending_sublist : ∀ {noted : NameSet} {es : List RouteEntry},
    (pending noted es).Sublist es
  | _, [] => .slnil
  | noted, e :: es => by
    rw [pending]
    split
    · exact pending_sublist.cons e
    · exact pending_sublist.cons_cons e

/-- An entry is pending only if its key is not noted. -/
theorem pending_new {noted : NameSet} {es : List RouteEntry} :
    ∀ e ∈ pending noted es, noted.contains e.key = false := by
  induction es generalizing noted with
  | nil => simp [pending]
  | cons e es ih =>
    rw [pending]
    by_cases known : noted.contains e.key = true
    · rw [if_pos known]
      exact ih
    · rw [if_neg known]
      intro e' he'
      rcases List.mem_cons.mp he' with rfl | he'
      · simpa using known
      · by_contra there
        have later := ih e' he'
        rw [(NameSet.contains_add ..).mpr (.inr (by simpa using there))] at later
        exact Bool.false_ne_true later.symm

/-- The pending entries have different keys. -/
theorem nodup_pending : ∀ {noted : NameSet} {es : List RouteEntry},
    ((pending noted es).map key).Nodup
  | _, [] => List.nodup_nil
  | noted, e :: es => by
    rw [pending]
    split
    · exact nodup_pending
    · refine List.nodup_cons.mpr ⟨fun again => ?_, nodup_pending⟩
      obtain ⟨e', he', same⟩ := List.mem_map.mp again
      have new := pending_new e' he'
      rw [same, (NameSet.contains_add ..).mpr (.inl rfl)] at new
      exact nomatch new

theorem contains_noteAll {noted : NameSet} {es : List RouteEntry} {k : String} :
    (noteAll noted es).contains k ↔ noted.contains k ∨ k ∈ es.map key := by
  induction es generalizing noted with
  | nil => simp [noteAll]
  | cons e es ih =>
    show (noteAll (noted.add e.key) es).contains k ↔ _
    rw [ih, NameSet.contains_add, List.map_cons, List.mem_cons]
    tauto

theorem noteAll_append (noted : NameSet) (as bs : List RouteEntry) :
    noteAll noted (as ++ bs) = noteAll (noteAll noted as) bs :=
  List.foldl_append

theorem pending_append (noted : NameSet) (as bs : List RouteEntry) :
    pending noted (as ++ bs) =
      pending noted as ++ pending (noteAll noted (pending noted as)) bs := by
  induction as generalizing noted with
  | nil => rfl
  | cons a as ih =>
    simp only [List.cons_append, pending]
    by_cases known : noted.contains a.key = true
    · rw [if_pos known, if_pos known, ih]
    · rw [if_neg known, if_neg known, ih]
      rfl

/-- When the keys of all entries have been met, they are noted. -/
theorem contains_noteAll_pending {noted : NameSet} {es : List RouteEntry} {k : String} :
    (noteAll noted (pending noted es)).contains k ↔ noted.contains k ∨ k ∈ es.map key := by
  induction es generalizing noted with
  | nil => simp [pending, noteAll]
  | cons e es ih =>
    rw [pending, List.map_cons, List.mem_cons]
    by_cases known : noted.contains e.key = true
    · rw [if_pos known, ih]
      constructor
      · rintro (old | later)
        · exact .inl old
        · exact .inr (.inr later)
      · rintro (old | rfl | later)
        · exact .inl old
        · exact .inl known
        · exact .inr later
    · rw [if_neg known]
      show (noteAll (noted.add e.key) (pending (noted.add e.key) es)).contains k ↔ _
      rw [ih, NameSet.contains_add]
      tauto

/-- The keys of the pending entries are those that are not noted. -/
theorem mem_pending_keys {noted : NameSet} {es : List RouteEntry} {k : String} :
    k ∈ (pending noted es).map key ↔ noted.contains k = false ∧ k ∈ es.map key := by
  constructor
  · intro hk
    obtain ⟨e, he, rfl⟩ := List.mem_map.mp hk
    exact ⟨pending_new e he, List.mem_map_of_mem (pending_sublist.subset he)⟩
  · rintro ⟨new, hk⟩
    have met : (noteAll noted (pending noted es)).contains k :=
      contains_noteAll_pending.mpr (.inr hk)
    rcases contains_noteAll.mp met with old | there
    · rw [new] at old
      exact nomatch old
    · exact there

/-- Where the keys of earlier entries are noted, the pending entries are those whose key is
new. -/
theorem newFrom_eq_pending {earlier es : List RouteEntry} {noted : NameSet}
    (same : ∀ k, noted.contains k ↔ k ∈ earlier.map key) :
    newFrom earlier es = pending noted es := by
  induction es generalizing earlier noted with
  | nil => rfl
  | cons e es ih =>
    rw [newFrom_cons, pending]
    by_cases known : e.key ∈ earlier.map key
    · rw [if_pos known, if_pos ((same _).mpr known), List.nil_append]
      apply ih
      intro k
      rw [same, List.map_append, List.mem_append, List.map_singleton, List.mem_singleton]
      exact ⟨.inl, fun | .inl old => old | .inr again => again ▸ known⟩
    · rw [if_neg known, if_neg fun noted => known ((same _).mp noted), List.singleton_append]
      rw [ih]
      intro k
      rw [NameSet.contains_add, same, List.map_append, List.mem_append, List.map_singleton,
        List.mem_singleton, or_comm]

end RouteEntry

/-! ## Planned routes -/

namespace Vantage

variable (v : Vantage) (t : Topology) (s : Run)

/-- A destination is the one that an entry asks for, with the id or the block
that has been learned for it. -/
inductive Leads (e : RouteEntry) : Destination → Prop
  | cidr {block : String} (asked : e.route.destinationSpec = .cidr block) :
      Leads e (.cidr block)
  | ipv6Cidr {block : String} (asked : e.route.destinationSpec = .ipv6Cidr block) :
      Leads e (.ipv6Cidr block)
  | prefixList {name id : String} (asked : e.route.destinationSpec = .prefixList name)
      (learned : s.Knows ⟨(Published.prefixList name).path v.pathPrefix, e.own.scope⟩ id) :
      Leads e (.prefixList name id)
  | peerBlock {vpc : Vpc} {block : String} {others : List String}
      (asked : e.route.destinationSpec = .peerPrimaryCidr) (found : t.vpc? e.peer.vpc = some vpc)
      (blocks : vpc.cidrs = block :: others) : Leads e (.cidr block)
  | peerLearned {vpc : Vpc} {block : String}
      (asked : e.route.destinationSpec = .peerPrimaryCidr) (found : t.vpc? e.peer.vpc = some vpc)
      (blocks : vpc.cidrs = [])
      (learned : s.Knows ⟨(Published.vpcPrimaryCidr e.peer.vpc).path v.pathPrefix,
        e.peer.scope⟩ block) : Leads e (.cidr block)

/-- A route that the unit writes comes of an entry: it has the entry's own
destination, and the id of the entry's own table. -/
structure Writes (r : PeeringRoute) (e : RouteEntry) : Prop where
  key : r.key = e.key
  connection : r.peeringKey = e.connectionKey
  side : r.side = e.side
  vpc : r.vpc = e.own.vpc
  table : r.routeTable = e.table
  tableId : s.Knows ⟨(Published.vpcRouteTable e.own.vpc e.table).path v.pathPrefix, e.own.scope⟩
    r.routeTableId
  destination : v.Leads t s e r.destination
  scope : r.scope = e.own.scope

/-- A route that is written elsewhere comes of an entry in the same way. -/
structure Delegates (r : CrossAccountRoute) (e : RouteEntry) : Prop where
  key : r.key = e.key
  connection : r.peeringKey = e.connectionKey
  vpc : r.vpc = e.own.vpc
  table : r.routeTable = e.table
  tableId : s.Knows ⟨(Published.vpcRouteTable e.own.vpc e.table).path v.pathPrefix, e.own.scope⟩
    r.routeTableId
  destination : v.Leads t s e r.destination
  owner : r.owner = e.own.scope
  accountId : r.ownerAccountId = e.own.accountId
  role : r.roleName = RolePurpose.peeringRoutes.roleName v.pathPrefix e.own.scope.region

/-- The routes of a batch come of some entries, in order and one for one. -/
structure Realizes (es : List RouteEntry) (b : RouteBatch) : Prop where
  direct : List.Forall₂ (v.Writes t s) b.routes (es.filter (·.isDirect v))
  delegated : List.Forall₂ (v.Delegates t s) b.crossAccountRoutes (es.filter (!·.isDirect v))

variable {v t s} {es es' : List RouteEntry} {b b' : RouteBatch}

theorem stable_leads (e : RouteEntry) (d : Destination) : Run.Stable (v.Leads t · e d) := by
  intro s s' continues leads
  cases leads with
  | cidr asked => exact .cidr asked
  | ipv6Cidr asked => exact .ipv6Cidr asked
  | prefixList asked learned => exact .prefixList asked (continues.knows learned)
  | peerBlock asked found blocks => exact .peerBlock asked found blocks
  | peerLearned asked found blocks learned =>
    exact .peerLearned asked found blocks (continues.knows learned)

theorem stable_realizes (es : List RouteEntry) (b : RouteBatch) :
    Run.Stable (v.Realizes t · es b) := by
  rintro s s' continues ⟨direct, delegated⟩
  refine ⟨direct.imp fun r e h => ?_, delegated.imp fun r e h => ?_⟩
  · exact { h with
      tableId := continues.knows h.tableId
      destination := stable_leads e _ continues h.destination }
  · exact { h with
      tableId := continues.knows h.tableId
      destination := stable_leads e _ continues h.destination }

theorem realizes_nil : v.Realizes t s [] {} := ⟨.nil, .nil⟩

theorem Realizes.append (h : v.Realizes t s es b) (h' : v.Realizes t s es' b') :
    v.Realizes t s (es ++ es') (b ++ b') where
  direct := by
    rw [List.filter_append]
    exact List.rel_append h.direct h'.direct
  delegated := by
    rw [List.filter_append]
    exact List.rel_append h.delegated h'.delegated

/-- Every entry has its route. -/
theorem Realizes.size (h : v.Realizes t s es b) : b.size = es.length := by
  have split := (List.filter_append_perm (·.isDirect v) es).length_eq
  rw [List.length_append] at split
  rw [RouteBatch.size, h.direct.length_eq, h.delegated.length_eq, split]

end Vantage

theorem Topology.requireVpc_ok {t : Topology} {name : String} {scope : Scope} {vpc : Vpc}
    (h : t.requireVpc name scope = .ok vpc) : t.vpc? name = some vpc := by
  unfold requireVpc at h
  split at h
  · next found => rw [found, Except.ok.inj h]
  · exact nomatch h

namespace Vantage

variable {v : Vantage} {t : Topology} {s : Run}

/-! ## One entry -/

open Lookup

theorem destination_meets {J : Run → Prop} (h : Run.Indifferent J) (e : RouteEntry) :
    Meets J (v.destination t e.route e.own e.peer) (fun d s => J s ∧ v.Leads t s e d) J := by
  unfold destination
  split
  · next block asked => exact meets_pure fun s hs => ⟨hs, .cidr asked⟩
  · next block asked => exact meets_pure fun s hs => ⟨hs, .ipv6Cidr asked⟩
  · next name asked =>
    dsimp only
    split
    · refine (meets_learn h).bind _ fun id => meets_pure fun s hs => ?_
      exact ⟨hs.1, .prefixList asked hs.2⟩
    · exact meets_throw fun _ hs => hs
  · next asked =>
    refine Meets.bind (fun vpc s => J s ∧ t.vpc? e.peer.vpc = some vpc)
      (meets_ofExcept (fun vpc found s hs => ⟨hs, Topology.requireVpc_ok found⟩)
        fun _ hs => hs) fun vpc => ?_
    cases blocks : vpc.cidrs with
    | cons block others => exact meets_pure fun s hs => ⟨hs.1, .peerBlock asked hs.2 blocks⟩
    | nil =>
      have stable : Run.Stable fun _ => t.vpc? e.peer.vpc = some vpc := fun _ _ _ found => found
      refine ((meets_learn h).and_stable stable).bind _ fun block =>
        meets_pure fun s hs => ?_
      exact ⟨hs.1.1, .peerLearned asked hs.2 blocks hs.1.2⟩

/-- The entry that a route over a side of a connection comes of. -/
def entry (c : Connection) (side : PeeringSide) (table : String) (r : VpcRoute) : RouteEntry :=
  ⟨c.key, side, c.endOn side, c.endOpposite side, table, r⟩

theorem routeOn_realizes {c : Connection} {side : PeeringSide} {table tableId : String}
    {r : VpcRoute} {d : Destination} (leads : v.Leads t s (entry c side table r) d)
    (learned : s.Knows ⟨(Published.vpcRouteTable (c.endOn side).vpc table).path v.pathPrefix,
      (c.endOn side).scope⟩ tableId) :
    v.Realizes t s [entry c side table r]
      (v.routeOn c side (entry c side table r).key table tableId d) := by
  unfold routeOn
  by_cases here : (c.endOn side).scope = v.caller
  · have direct : (entry c side table r).isDirect v = true := beq_iff_eq.mpr here
    simp only [here, if_true]
    refine ⟨?_, ?_⟩
    · rw [List.filter_cons_of_pos direct]
      exact .cons ⟨rfl, rfl, rfl, rfl, rfl, learned, leads, here.symm⟩ .nil
    · simp [direct]
  · have elsewhere : (entry c side table r).isDirect v = false := beq_eq_false_iff_ne.mpr here
    simp only [here, if_false]
    refine ⟨?_, ?_⟩
    · simp [elsewhere]
    · rw [List.filter_cons_of_pos (by simp [elsewhere])]
      exact .cons ⟨rfl, rfl, rfl, rfl, learned, leads, rfl, rfl, rfl⟩ .nil

/-- A run has met some of the pending entries, and noted their keys. -/
def Spent (noted : NameSet) (es : List RouteEntry) (s : Run) : Prop :=
  ∃ spent left, RouteEntry.pending noted es = spent ++ left ∧ spent ≠ [] ∧
    s.plannedRoutes = RouteEntry.noteAll noted spent

theorem indifferent_plannedRoutes (noted : NameSet) :
    Run.Indifferent (·.plannedRoutes = noted) :=
  ⟨fun _ h => h, fun h => h, fun _ _ h => h, fun _ _ h => h, fun _ _ h => h⟩

/-- The key of a route is new or has been noted, and it is noted from then on. -/
theorem noteRoute_meets (noted : NameSet) (key : String) :
    Meets (·.plannedRoutes = noted) (noteRoute key)
      (fun new s => if noted.contains key then new = false ∧ s.plannedRoutes = noted
        else new = true ∧ s.plannedRoutes = noted.add key)
      fun _ => False := by
  constructor
  · rintro s s' new rfl run
    rw [noteRoute_run] at run
    split at run
    · next known =>
      cases run
      rw [if_pos known]
      exact ⟨.refl s, rfl, rfl⟩
    · next unknown =>
      cases run
      rw [if_neg unknown]
      exact ⟨⟨List.prefix_refl _, id⟩, rfl, rfl⟩
  · intro s s' e _ run
    rw [noteRoute_run] at run
    split at run
    · exact nomatch run
    · exact nomatch run

/-- What is looked up for an entry gives the route that comes of it. -/
theorem lookedUp_realizes {J : Run → Prop} (h : Run.Indifferent J) (c : Connection)
    (side : PeeringSide) (table : String) (r : VpcRoute) :
    Meets J
      (do
        let tableId ← v.learn (.vpcRouteTable (c.endOn side).vpc table) (c.endOn side).scope
        let destination ← v.destination t r (c.endOn side) (c.endOpposite side)
        pure (v.routeOn c side (entry c side table r).key table tableId destination))
      (fun b s => J s ∧ v.Realizes t s [entry c side table r] b) J := by
  refine (meets_learn h).bind _ fun tableId => ?_
  have leads := (destination_meets (v := v) (t := t) h (entry c side table r)).and_stable
    (Run.stable_knows ⟨(Published.vpcRouteTable (c.endOn side).vpc table).path v.pathPrefix,
      (c.endOn side).scope⟩ tableId)
  refine leads.bind _ fun d => meets_pure ?_
  rintro s ⟨⟨hs, leads⟩, known⟩
  exact ⟨hs, routeOn_realizes leads known⟩

/-- A route is planned for an entry, unless its key has been noted. The key is noted from then
on, also if the route cannot be planned. -/
theorem planRoute_pending (noted : NameSet) (c : Connection) (side : PeeringSide)
    (table : String) (r : VpcRoute) :
    Meets (·.plannedRoutes = noted) (v.planRoute t c side table r)
      (fun b s => s.plannedRoutes = RouteEntry.noteAll noted
          (RouteEntry.pending noted [entry c side table r]) ∧
        v.Realizes t s (RouteEntry.pending noted [entry c side table r]) b)
      (Spent noted [entry c side table r]) := by
  rw [planRoute_eq]
  refine ((noteRoute_meets noted (entry c side table r).key).weaken (fun _ hs => hs)
    (fun _ _ hs => hs) fun _ hs => hs.elim).bind _ fun new => ?_
  by_cases known : noted.contains (entry c side table r).key = true
  · have none : RouteEntry.pending noted [entry c side table r] = [] := if_pos known
    simp only [known, if_true, none]
    refine Meets.assuming fun old => ?_
    rw [old]
    exact meets_pure fun s hs => ⟨hs, realizes_nil⟩
  · have one : RouteEntry.pending noted [entry c side table r] = [entry c side table r] :=
      if_neg known
    simp only [known, one]
    refine Meets.assuming fun first => ?_
    rw [first]
    exact (lookedUp_realizes (indifferent_plannedRoutes _) c side table r).weaken
      (fun _ hs => hs) (fun _ _ hs => hs)
      fun s hs => ⟨[entry c side table r], [], by rw [one]; rfl, by simp, hs⟩

/-! ## A side of a connection -/

/-- The routes of some entries: one for each that is pending. If they cannot be planned, then the
pending entries that have been met are noted all the same. -/
theorem planRoutes_pending (c : Connection) (side : PeeringSide) :
    ∀ (noted : NameSet) (rs : List (String × VpcRoute)),
      Meets (·.plannedRoutes = noted) (v.planRoutes t c side rs)
        (fun b s => s.plannedRoutes = RouteEntry.noteAll noted
            (RouteEntry.pending noted (rs.map fun r => entry c side r.1 r.2)) ∧
          v.Realizes t s (RouteEntry.pending noted (rs.map fun r => entry c side r.1 r.2)) b)
        (Spent noted (rs.map fun r => entry c side r.1 r.2))
  | noted, [] => meets_pure fun s hs => ⟨hs, realizes_nil⟩
  | noted, (table, r) :: rest => by
    let e := entry c side table r
    let es := rest.map fun r => entry c side r.1 r.2
    have split : RouteEntry.pending noted (e :: es) = RouteEntry.pending noted [e] ++
        RouteEntry.pending (RouteEntry.noteAll noted (RouteEntry.pending noted [e])) es :=
      RouteEntry.pending_append noted [e] es
    show Meets _ _ (fun b s => s.plannedRoutes = RouteEntry.noteAll noted
        (RouteEntry.pending noted (e :: es)) ∧
      v.Realizes t s (RouteEntry.pending noted (e :: es)) b) (Spent noted (e :: es))
    have first := planRoute_pending (v := v) (t := t) noted c side table r
    have others := planRoutes_pending c side
      (RouteEntry.noteAll noted (RouteEntry.pending noted [e])) rest
    refine (first.weaken (fun _ hs => hs) (fun _ _ hs => hs) ?_).bind _ fun b => ?_
    · rintro s ⟨spent, left, met, some, planned⟩
      refine ⟨spent, left ++ RouteEntry.pending
        (RouteEntry.noteAll noted (RouteEntry.pending noted [e])) es, ?_, some, planned⟩
      rw [split, ← List.append_assoc, ← met]
    · refine ((others.and_stable (stable_realizes _ b)).weaken (fun _ hs => hs)
        (fun _ _ hs => hs) ?_).bind _ fun more => meets_pure fun s hs => ?_
      · rintro s ⟨spent, left, met, some, planned⟩
        refine ⟨RouteEntry.pending noted [e] ++ spent, left, ?_, by simp [some], ?_⟩
        · rw [split, List.append_assoc, ← met]
        · rw [planned, RouteEntry.noteAll_append]
      · obtain ⟨⟨planned, realized⟩, before⟩ := hs
        rw [split, RouteEntry.noteAll_append]
        exact ⟨planned, before.append realized⟩

/-- The entries for a side of a connection: those of its VPC that lead over the
connection. -/
def entriesOn (t : Topology) (side : PeeringSide) (c : Connection) : List RouteEntry :=
  match t.vpc? (c.endOn side).vpc with
  | none => []
  | some vpc => (vpc.routesOver c.name).map fun r => entry c side r.1 r.2

theorem entriesOn_of_undefined {t : Topology} {side : PeeringSide} {c : Connection}
    (undefined : t.vpc? (c.endOn side).vpc = none) : entriesOn t side c = [] := by
  unfold entriesOn
  rw [undefined]

/-- An entry is one of its VPC that leads over its connection. -/
theorem mem_entriesOn {t : Topology} {side : PeeringSide} {c : Connection} {e : RouteEntry}
    (he : e ∈ entriesOn t side c) : ∃ vpc r, t.vpc? (c.endOn side).vpc = some vpc ∧
      r ∈ vpc.routesOver c.name ∧ e = entry c side r.1 r.2 := by
  unfold entriesOn at he
  split at he
  · exact nomatch he
  · next vpc found =>
    obtain ⟨r, leading, rfl⟩ := List.mem_map.mp he
    exact ⟨vpc, r, found, leading, rfl⟩

/-- The connection with the routes of a side planned. -/
def advance (side : PeeringSide) (c : Connection) : Connection :=
  { c with stage := c.stage.after side }

theorem entriesOn_advance (t : Topology) (side side' : PeeringSide) (c : Connection) :
    entriesOn t side (advance side' c) = entriesOn t side c := by
  cases side <;> rfl

theorem entriesOn_map_advance (t : Topology) (side side' : PeeringSide) (cs : List Connection) :
    (cs.map (advance side')).flatMap (entriesOn t side) = cs.flatMap (entriesOn t side) := by
  rw [List.flatMap_map]
  exact congrArg cs.flatMap (funext (entriesOn_advance t side side'))

/-- A side that is planned has no further routes, and nothing happens for it. -/
theorem planSide_done {side : PeeringSide} {c : Connection} (done : c.stage.isDone side = true) :
    (v.planSide t side c).run s = .ok (c, {}) s := by
  rw [planSide_eq, if_pos done]
  rfl

/-- The routes of a side of a connection: one for each of its entries that is pending. They cannot
be planned if the VPC is not defined, and the planning may fail when some pending entries have been
met and noted. -/
theorem sideRoutes_pending (noted : NameSet) (side : PeeringSide) (c : Connection) :
    Meets (·.plannedRoutes = noted) (v.sideRoutes t side c)
      (fun b s => s.plannedRoutes = RouteEntry.noteAll noted
          (RouteEntry.pending noted (entriesOn t side c)) ∧
        v.Realizes t s (RouteEntry.pending noted (entriesOn t side c)) b)
      (fun s => (t.vpc? (c.endOn side).vpc = none ∧ s.plannedRoutes = noted) ∨
        Spent noted (entriesOn t side c) s) := by
  unfold sideRoutes entriesOn Topology.requireVpc
  cases found : t.vpc? (c.endOn side).vpc with
  | none =>
    show Meets _ (throw (.misconfigured (.undefinedVpc (c.endOn side).vpc) v.caller) >>= _) _ _
    exact Meets.bind (fun _ _ => False) (meets_throw fun s hs => .inl ⟨rfl, hs⟩) fun _ =>
      ⟨fun h => h.elim, fun h => h.elim⟩
  | some vpc =>
    refine Meets.bind (fun vpc' s => vpc = vpc' ∧ s.plannedRoutes = noted)
      (meets_pure fun s hs => ⟨rfl, hs⟩) fun vpc' => Meets.assuming ?_
    rintro rfl
    exact (planRoutes_pending c side noted (vpc.routesOver c.name)).weaken (fun _ hs => hs)
      (fun _ _ hs => hs) fun _ spent => .inr spent

/-- A side of a connection: a route for each of its entries that is pending. It fails as its
routes do. -/
theorem planSide_pending (noted : NameSet) {side : PeeringSide} {c : Connection}
    (open_ : c.stage.isDone side = false) :
    Meets (·.plannedRoutes = noted) (v.planSide t side c)
      (fun r s => r.1 = advance side c ∧
        s.plannedRoutes = RouteEntry.noteAll noted
          (RouteEntry.pending noted (entriesOn t side c)) ∧
        v.Realizes t s (RouteEntry.pending noted (entriesOn t side c)) r.2)
      (fun s => (t.vpc? (c.endOn side).vpc = none ∧ s.plannedRoutes = noted) ∨
        Spent noted (entriesOn t side c) s) := by
  rw [planSide_eq, if_neg (by simp [open_])]
  exact (sideRoutes_pending noted side c).bind _ fun b => meets_pure fun s hs => ⟨rfl, hs⟩

end Vantage

/-! ## All connections -/

namespace Topology

/-- Every connection is made of a peering that is described: it connects the two
VPCs, each in an account that it is deployed to. -/
theorem connectionsOf_made {t : Topology} {accounts : Registry} {scope : Scope}
    {pathPrefix : String} {cs : List Connection}
    (h : t.connectionsOf accounts scope pathPrefix = .ok cs) {c : Connection} (hc : c ∈ cs) :
    ∃ p ∈ t.network.vpcPeerings, ∃ x y a b account other near far, p.vpcs = [x, y] ∧
      t.vpc? x = some a ∧ t.vpc? y = some b ∧ account ∈ accounts.vpcAccounts a ∧
      other ∈ accounts.vpcAccounts b ∧ peeringEnd accounts scope a account = .ok near ∧
      peeringEnd accounts scope b other = .ok far ∧
      c = connection p pathPrefix (accounts.spansAccounts a b) near far := by
  unfold connectionsOf at h
  cases made : t.connections accounts scope pathPrefix with
  | error e => simp [made, Except.map] at h
  | ok all =>
    rw [made] at h
    cases h
    obtain ⟨p, hp, ofPeering⟩ :=
      List.mem_flatMap.mp (mem_of_collectOk made (List.mem_filter.mp hc).1)
    unfold peeringResults at ofPeering
    split at ofPeering
    · next x y names =>
      split at ofPeering
      · next a b first second =>
        obtain ⟨account, deployed, ofAccount⟩ := List.mem_flatMap.mp ofPeering
        cases near : peeringEnd accounts scope a account with
        | error e => simp [near] at ofAccount
        | ok near' =>
          rw [near] at ofAccount
          obtain ⟨other, deployed', ofPair⟩ := List.mem_map.mp ofAccount
          cases far : peeringEnd accounts scope b other with
          | error e => simp [far, Except.map] at ofPair
          | ok far' =>
            rw [far] at ofPair
            cases ofPair
            exact ⟨p, hp, x, y, a, b, account, other, near', far', names, requireVpc_ok first,
              requireVpc_ok second, deployed, deployed', near, far, rfl⟩
      · simp at ofPeering
      · simp at ofPeering
    · simp at ofPeering

/-- A scope requests the connections that it is the requester's scope of. -/
theorem requester_of_requested {t : Topology} {accounts : Registry} {scope : Scope}
    {pathPrefix : String} {cs : List Connection}
    (made : t.connectionsOf accounts scope pathPrefix = .ok cs) {c : Connection} (hc : c ∈ cs) :
    c.requester.scope = scope := by
  unfold connectionsOf at made
  cases all : t.connections accounts scope pathPrefix with
  | error e => simp [all, Except.map] at made
  | ok every =>
    simp only [all, Except.map, Except.ok.injEq] at made
    subst made
    exact beq_iff_eq.mp (List.mem_filter.mp hc).2

/-- Connections are classified when they are made, and nothing else is done for
them. -/
theorem connectionsOf_classified {t : Topology} {accounts : Registry} {scope : Scope}
    {pathPrefix : String} {cs : List Connection}
    (h : t.connectionsOf accounts scope pathPrefix = .ok cs) :
    ∀ c ∈ cs, c.stage = .classified := by
  intro c hc
  obtain ⟨p, -, x, y, a, b, account, other, near, far, -, -, -, -, -, -, -, rfl⟩ :=
    connectionsOf_made h hc
  rfl

end Topology

namespace PeeringPlan

open Lookup Vantage

variable {v : Vantage} {t : Topology}

/-- A step for every connection, under an invariant that speaks of the
connections that are done and of what came of them. -/
theorem meets_forEach {α : Type} {step : Connection → Lookup α} {fail : Run → Prop}
    (inv : List Connection → List α → Run → Prop) :
    ∀ (done : List Connection) (as : List α) (rest : List Connection),
      (∀ before as, ∀ c ∈ rest,
        Meets (inv before as) (step c) (fun a s => inv (before ++ [c]) (as ++ [a]) s) fail) →
      Meets (inv done as) (forEach step rest) (fun bs s => inv (done ++ rest) (as ++ bs) s) fail
  | done, as, [], _ => by
    refine meets_pure fun s hs => ?_
    rwa [List.append_nil, List.append_nil]
  | done, as, c :: rest, h => by
    refine (h done as c List.mem_cons_self).bind _ fun a => ?_
    have others := meets_forEach inv (done ++ [c]) (as ++ [a]) rest
      fun before as c' hc => h before as c' (List.mem_cons_of_mem _ hc)
    refine others.bind _ fun bs => meets_pure fun s hs => ?_
    simpa using hs

/-- One side of some connections is planned, after some keys had been noted. -/
structure SidePlanned (v : Vantage) (t : Topology) (noted : NameSet) (side : PeeringSide)
    (done : List Connection) (results : List (Connection × RouteBatch)) (s : Run) : Prop where
  connections : results.map (·.1) = done.map (advance side)
  met : s.plannedRoutes = RouteEntry.noteAll noted
    (RouteEntry.pending noted (done.flatMap (entriesOn t side)))
  routes : v.Realizes t s (RouteEntry.pending noted (done.flatMap (entriesOn t side)))
    (results.foldl (fun batch r => batch ++ r.2) {})

theorem planSide_step {noted : NameSet} {side : PeeringSide} {done : List Connection}
    {results : List (Connection × RouteBatch)} {c : Connection}
    (unplanned : c.stage.isDone side = false) :
    Meets (SidePlanned v t noted side done results) (v.planSide t side c)
      (fun r s => SidePlanned v t noted side (done ++ [c]) (results ++ [r]) s)
      fun _ => True := by
  have stable : Run.Stable fun s => results.map (·.1) = done.map (advance side) ∧
      v.Realizes t s (RouteEntry.pending noted (done.flatMap (entriesOn t side)))
        (results.foldl (fun batch r => batch ++ r.2) {}) :=
    Run.stable_and (fun _ _ _ same => same) (stable_realizes _ _)
  have one := ((planSide_pending (v := v) (t := t) (RouteEntry.noteAll noted
    (RouteEntry.pending noted (done.flatMap (entriesOn t side)))) unplanned).succeeding).and_stable
      stable
  refine one.weaken (fun s hs => ⟨hs.met, hs.connections, hs.routes⟩) (fun r s hs => ?_)
    fun _ hs => hs
  obtain ⟨⟨advanced, met, planned⟩, connections, routes⟩ := hs
  refine ⟨?_, ?_, ?_⟩
  · rw [List.map_append, List.map_append, connections, List.map_singleton, List.map_singleton,
      advanced]
  · rw [List.flatMap_append, List.flatMap_singleton, RouteEntry.pending_append,
      RouteEntry.noteAll_append, met]
  · rw [List.flatMap_append, List.flatMap_singleton, RouteEntry.pending_append,
      List.foldl_append, List.foldl_cons, List.foldl_nil]
    exact routes.append planned

theorem planSides_pending (noted : NameSet) (side : PeeringSide) {cs : List Connection}
    (unplanned : ∀ c ∈ cs, c.stage.isDone side = false) :
    Meets (·.plannedRoutes = noted) (planSides v t side cs)
      (fun r s => r.1 = cs.map (advance side) ∧
        s.plannedRoutes = RouteEntry.noteAll noted
          (RouteEntry.pending noted (cs.flatMap (entriesOn t side))) ∧
        v.Realizes t s (RouteEntry.pending noted (cs.flatMap (entriesOn t side))) r.2)
      fun _ => True := by
  have all : Meets (SidePlanned v t noted side [] []) (forEach (v.planSide t side) cs)
      (fun results s => SidePlanned v t noted side cs results s) fun _ => True :=
    meets_forEach (SidePlanned v t noted side) [] [] cs fun _ _ c hc =>
      planSide_step (unplanned c hc)
  have start (s : Run) (hs : s.plannedRoutes = noted) : SidePlanned v t noted side [] [] s :=
    ⟨rfl, hs, realizes_nil⟩
  refine (all.weaken start (fun _ _ hs => hs) fun _ hs => hs).bind _ fun results =>
    meets_pure fun s hs => ?_
  exact ⟨hs.connections, hs.met, hs.routes⟩

/-- The entries that lead over some connections: those of the requesters, then
those of the accepters. -/
def routeEntries (t : Topology) (cs : List Connection) : List RouteEntry :=
  cs.flatMap (entriesOn t .requester) ++ cs.flatMap (entriesOn t .accepter)

theorem mem_routeEntries {t : Topology} {cs : List Connection} {e : RouteEntry}
    (he : e ∈ routeEntries t cs) : ∃ c ∈ cs, ∃ side, e ∈ entriesOn t side c := by
  rcases List.mem_append.mp he with he | he
  · obtain ⟨c, hc, he⟩ := List.mem_flatMap.mp he
    exact ⟨c, hc, .requester, he⟩
  · obtain ⟨c, hc, he⟩ := List.mem_flatMap.mp he
    exact ⟨c, hc, .accepter, he⟩

theorem resolveVpcs_meets (noted : NameSet) (c : Connection) :
    Meets (·.plannedRoutes = noted) (resolveVpcs v c)
      (fun c' s => c'.stage = c.stage ∧ s.plannedRoutes = noted) fun _ => True := by
  have indifferent := indifferent_plannedRoutes noted
  refine (meets_learn indifferent).succeeding.bind _ fun requester => ?_
  refine (((meets_learn indifferent).weaken (fun _ hs => hs.1) (fun _ _ hs => hs)
    fun _ hs => hs).succeeding).bind _ fun accepter => meets_pure fun s hs => ?_
  exact ⟨rfl, hs.1⟩

/-- Every connection is classified, and nothing has been planned for any of them. -/
def Unplanned (noted : NameSet) (cs : List Connection) (s : Run) : Prop :=
  (∀ c ∈ cs, c.stage = .classified) ∧ s.plannedRoutes = noted

theorem forEach_resolveVpcs (noted : NameSet) {cs : List Connection}
    (classified : ∀ c ∈ cs, c.stage = .classified) :
    Meets (Unplanned noted []) (forEach (resolveVpcs v) cs) (Unplanned noted) fun _ => True := by
  refine meets_forEach (fun _ => Unplanned noted) [] [] cs fun _ before c hc => ?_
  refine Meets.assuming fun hbefore => (resolveVpcs_meets noted c).mono fun c' s hs => ⟨?_, hs.2⟩
  intro c'' hc''
  rcases List.mem_append.mp hc'' with earlier | last
  · exact hbefore c'' earlier
  · rw [List.mem_singleton.mp last, hs.1, classified c hc]

/-- What is planned for peerings: a route for every pending entry. -/
theorem build_pending (noted : NameSet) :
    Meets (·.plannedRoutes = noted) (build v t)
      (fun p s => v.Realizes t s (RouteEntry.pending noted (routeEntries t p.connections))
        ⟨p.routes, p.crossAccountRoutes⟩) fun _ => True := by
  unfold build
  refine Meets.bind (Unplanned noted)
    (meets_ofExcept (fun cs made s hs => ⟨Topology.connectionsOf_classified made, hs⟩)
      fun _ _ => trivial) fun cs => Meets.assuming fun classified => ?_
  refine ((forEach_resolveVpcs noted classified).weaken (fun s hs => ⟨by simp, hs⟩)
    (fun _ _ hs => hs) fun _ hs => hs).bind _ fun cs' => Meets.assuming fun classified' => ?_
  have unrequested : ∀ c ∈ cs', c.stage.isDone .requester = false := fun c hc => by
    rw [classified' c hc]
    rfl
  refine (planSides_pending noted .requester unrequested).bind _ fun (cs₁, requested) => ?_
  refine Meets.assuming fun (advanced : cs₁ = cs'.map (advance .requester)) => ?_
  have unaccepted : ∀ c ∈ cs₁, c.stage.isDone .accepter = false := by
    intro c hc
    rw [advanced] at hc
    obtain ⟨c', hc', rfl⟩ := List.mem_map.mp hc
    rw [advance, classified' c' hc']
    rfl
  refine ((planSides_pending _ .accepter unaccepted).and_stable
    (stable_realizes _ requested)).bind _ fun (cs₂, accepted) => meets_pure fun s hs => ?_
  obtain ⟨⟨(advanced' : cs₂ = cs₁.map (advance .accepter)), -, second⟩, first⟩ := hs
  have entries : routeEntries t cs₂ =
      cs'.flatMap (entriesOn t .requester) ++ cs₁.flatMap (entriesOn t .accepter) := by
    rw [routeEntries, advanced', entriesOn_map_advance, entriesOn_map_advance, advanced,
      entriesOn_map_advance]
  show v.Realizes t s (RouteEntry.pending noted (routeEntries t cs₂)) (requested ++ accepted)
  rw [entries, RouteEntry.pending_append]
  exact first.append second

/-- What a unit makes of the entries that lead over its connections: the routes
that are planned are, in order and one for one, the entries that come first under
their keys, each with its own destination and table. No entry is lost if and only
if no two entries have one key. -/
structure Serves (v : Vantage) (t : Topology) (s : Run) (p : PeeringPlan) : Prop where
  first : v.Realizes t s (RouteEntry.newFrom [] (routeEntries t p.connections))
    ⟨p.routes, p.crossAccountRoutes⟩
  all_iff : v.Realizes t s (routeEntries t p.connections) ⟨p.routes, p.crossAccountRoutes⟩ ↔
    ((routeEntries t p.connections).map RouteEntry.key).Nodup

theorem serves_of_first {s : Run} {p : PeeringPlan}
    (first : v.Realizes t s (RouteEntry.newFrom [] (routeEntries t p.connections))
      ⟨p.routes, p.crossAccountRoutes⟩) : Serves v t s p := by
  refine ⟨first, ?_⟩
  have all := RouteEntry.newFrom_eq_self_iff [] (routeEntries t p.connections) List.nodup_nil
  rw [List.nil_append] at all
  rw [← all]
  constructor
  · intro realized
    refine (RouteEntry.newFrom_sublist [] _).eq_of_length ?_
    rw [← first.size, ← realized.size]
  · intro same
    rwa [same] at first

theorem serves_of_build {s s' : Run} {p : PeeringPlan} (fresh : s.plannedRoutes = .empty)
    (run : (build v t).run s = .ok p s') : Serves v t s' p := by
  have none (k : String) :
      (SortedMap.empty : NameSet).contains k ↔ k ∈ ([] : List RouteEntry).map RouteEntry.key := by
    simp [SortedMap.contains]
  refine serves_of_first ?_
  rw [RouteEntry.newFrom_eq_pending none]
  exact ((build_pending .empty).ok fresh run).2

end PeeringPlan

/-- Until a unit comes to its peerings it plans no routes over them, and afterwards
it only looks up more. -/
theorem Plan.serves_of_build {v : Vantage} {t : Topology} {s s' : Run} {p : Plan}
    (fresh : s.plannedRoutes = .empty) (run : (Plan.build v t).run s = .ok p s') :
    p.peering.Serves v t s' := by
  have indifferent : Run.Indifferent (·.plannedRoutes = .empty) :=
    ⟨fun _ h => h, fun h => h, fun _ _ h => h, fun _ _ h => h, fun _ _ h => h⟩
  obtain ⟨m, s₁, edges, routes, peering, s₂, rules, mapped, -, -, built, associated, rfl⟩ :=
    build_ok run
  have fresh₁ := ((UnitMap.build_keeps indifferent).ok fresh mapped).2
  have continues := RuleAssociation.continues associated
  have served := PeeringPlan.serves_of_build fresh₁ built
  exact PeeringPlan.serves_of_first (Vantage.stable_realizes _ _ continues served.first)

namespace PeeringPlan

/-- Peerings that are planned where no route was planned before serve the entries
of their connections, so that none is lost if and only if no two have one key.
The peerings of a plan are of that sort. -/
theorem planned_iff_keys_differ (t : Topology) :
    (∀ v s s' p, s.plannedRoutes = .empty → (build v t).run s = .ok p s' → p.Serves v t s') ∧
    ∀ scope backend p s, t.plan scope backend = .ok p s →
      p.peering.Serves (t.vantage scope backend) t s :=
  ⟨fun _ _ _ _ fresh run => serves_of_build fresh run,
    fun _ _ _ _ run => Plan.serves_of_build rfl run⟩

end PeeringPlan

/-- The unit that owns the attached VPC of the sample, where every question is
answered. -/
def Topology.workload (t : Topology) : Vantage :=
  t.vantage ⟨"Workload", "us-east-1"⟩ (.fixed fun _ => .value "id")

open PeeringPlan

/-- In the sample no two entries have one key, so that none is lost. -/
theorem planned_iff_keys_differ_sample :
    (∃ p s, (PeeringPlan.build Topology.sample.workload .sample).run {} = .ok p s ∧
      (routeEntries .sample p.connections).length = 2 ∧
      Topology.sample.workload.Realizes .sample s (routeEntries .sample p.connections)
        ⟨p.routes, p.crossAccountRoutes⟩) ∧
    ∃ p s, Topology.sample.plan ⟨"Workload", "us-east-1"⟩ (.fixed fun _ => .value "id") =
        .ok p s ∧
      Topology.sample.workload.Realizes .sample s (routeEntries .sample p.peering.connections)
        ⟨p.peering.routes, p.peering.crossAccountRoutes⟩ := by
  have serves := planned_iff_keys_differ .sample
  have planned : (PeeringPlan.build Topology.sample.workload .sample).comesTo (fun p =>
      decide ((routeEntries .sample p.connections).length = 2 ∧
        ((routeEntries .sample p.connections).map RouteEntry.key).Nodup)) = true := by
    decide +kernel
  have whole : (Plan.build Topology.sample.workload .sample).comesTo (fun p => decide
      ((routeEntries .sample p.peering.connections).map RouteEntry.key).Nodup) = true := by
    decide +kernel
  obtain ⟨p, s, run, check⟩ := Lookup.exists_of_comesTo planned
  obtain ⟨two, distinct⟩ := of_decide_eq_true check
  obtain ⟨p', s', run', check'⟩ := Lookup.exists_of_comesTo whole
  exact ⟨⟨p, s, run, two, (serves.1 _ _ _ _ rfl run).all_iff.mpr distinct⟩, p', s', run',
    (serves.2 _ _ _ _ run').all_iff.mpr (of_decide_eq_true check')⟩

/-- The sample with every entry of a route table given a second time, under its
name and with another destination. -/
def Topology.sampleTwice : Topology where
  settings := sample.settings
  accounts := sample.accounts
  network :=
    { sample.network with
      vpcs := sample.network.vpcs.map fun vpc =>
        { vpc with
          routeTables := vpc.routeTables.map fun table =>
            { table with
              routes := table.routes ++
                table.routes.map fun r => { r with destination := some "10.1.1.0/24" } } } }

/-- A topology may repeat the name of an entry and be valid, and then the second
entry is lost. -/
theorem entry_lost :
    Topology.sampleTwice.validate = .ok () ∧
      ∃ p s, (PeeringPlan.build Topology.sampleTwice.workload .sampleTwice).run {} = .ok p s ∧
        ¬ Topology.sampleTwice.workload.Realizes .sampleTwice s
          (routeEntries .sampleTwice p.connections) ⟨p.routes, p.crossAccountRoutes⟩ := by
  have planned : (PeeringPlan.build Topology.sampleTwice.workload .sampleTwice).comesTo (fun p =>
      decide ((routeEntries .sampleTwice p.connections).length = 4 ∧
        (⟨p.routes, p.crossAccountRoutes⟩ : RouteBatch).size = 2)) = true := by decide +kernel
  obtain ⟨p, s, run, check⟩ := Lookup.exists_of_comesTo planned
  obtain ⟨four, two⟩ := of_decide_eq_true check
  refine ⟨rfl, p, s, run, fun realized => ?_⟩
  have same := realized.size
  rw [four, two] at same
  omega

end Interlink
