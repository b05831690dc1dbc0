import Interlink.Proofs.Consistency
import Interlink.Proofs.Expansion
import Interlink.Proofs.Foreseen
import Interlink.Proofs.Keys
import Interlink.Proofs.PlanFailures

/-!
# In which order passes are made

The routes over a connection are planned in two passes, one a side. Both change the run:
what they learn is remembered, and the keys of what they plan are noted. With fixed
answers the second pass cannot tell whether the first one has been made. What it learns
was foreseen before, and the keys that the first pass has noted are not its own, as a key
names the VPC of its side and the two VPCs of a peering are different. So the passes may
be made in either order, and each gives the batch that it gives in the other
(`passes_independent`).

The keys that are noted also decide what any sequence of passes emits, whatever happens
in between: the keys of the entries that the passes plan, without those that were noted at
the beginning, and each of them once (`Pass.emitted_keys`). When both sides have been
planned, nothing is left to be emitted.
-/

namespace Interlink

/-! ## Lookups in two runs -/

namespace Lookup

variable {α β : Type} {R : Run → Run → Prop}

/-- The second lookup comes to what the first one comes to if it begins with a related run,
and the runs are related afterwards. -/
def Mirrors (R : Run → Run → Prop) (x y : Lookup α) : Prop :=
  ∀ {s s' s₁ : Run} {a : α}, R s s' → x.run s = .ok a s₁ → ∃ s₁', y.run s' = .ok a s₁' ∧ R s₁ s₁'

theorem paired_mirrors (R : Run → Run → Prop) : Paired fun _ x y => Mirrors R x y where
  pure a := by
    intro s s' s₁ b related run
    obtain ⟨rfl, rfl⟩ := run_pure_ok.mp run
    exact ⟨s', rfl, related⟩
  bind first next := by
    intro s s' s₂ b related run
    obtain ⟨a, s₁, one, two⟩ := run_bind_ok.mp run
    obtain ⟨s₁', one', related⟩ := first related one
    obtain ⟨s₂', two', related⟩ := next a s s₁ one related two
    exact ⟨s₂', run_bind_ok.mpr ⟨a, s₁', one', two'⟩, related⟩

end Lookup

open Lookup

/-! ## Routes of a side -/

namespace Vantage

variable {v : Vantage} {t : Topology} {answer : Query → Answer} {side : PeeringSide}
  {c c' : Connection} {s s' s₁ : Run} {b : RouteBatch} {keys : List String}

/-- Two runs in which the same is foreseen, and of some keys the same ones are noted. -/
structure Agree (v : Vantage) (answer : Query → Answer) (keys : List String) (s s' : Run) :
    Prop where
  foreseen : v.foreseen answer s = v.foreseen answer s'
  noted : ∀ k ∈ keys, s.plannedRoutes.contains k = s'.plannedRoutes.contains k

theorem Agree.symm (h : v.Agree answer keys s s') : v.Agree answer keys s' s :=
  ⟨h.foreseen.symm, fun k hk => (h.noted k hk).symm⟩

theorem noteRoute_mirrors {key : String} (hk : key ∈ keys) :
    Mirrors (v.Agree answer keys) (noteRoute key) (noteRoute key) := by
  intro s s' s₁ new agree run
  rw [noteRoute_run] at run
  rw [noteRoute_run, ← agree.noted key hk]
  split at run
  · next known =>
    cases run
    rw [if_pos known]
    exact ⟨s', rfl, agree⟩
  · next unknown =>
    cases run
    rw [if_neg unknown]
    refine ⟨_, rfl, agree.foreseen, fun k hk => ?_⟩
    rw [Bool.eq_iff_iff, NameSet.contains_add, NameSet.contains_add, agree.noted k hk]

/-- What is planned for a side does not depend on how far the connection is planned. -/
theorem planRoutes_described (c : Connection) (side : PeeringSide) (rs : List (String × VpcRoute)) :
    v.planRoutes t c.described side rs = v.planRoutes t c side rs := by
  induction rs with
  | nil => rfl
  | cons r rest ih =>
    unfold planRoutes
    rw [ih]
    cases side <;> rfl

theorem sideRoutes_described (c : Connection) (side : PeeringSide) :
    v.sideRoutes t side c.described = v.sideRoutes t side c := by
  unfold sideRoutes
  cases side <;> exact congrArg _ (funext fun vpc => planRoutes_described ..)

theorem entriesOn_described (c : Connection) (side : PeeringSide) :
    entriesOn t side c.described = entriesOn t side c := by
  cases side <;> rfl

theorem entry_mem_entriesOn {vpc : Vpc} {r : String × VpcRoute}
    (found : t.vpc? (c.endOn side).vpc = some vpc) (leading : r ∈ vpc.routesOver c.name) :
    entry c side r.1 r.2 ∈ entriesOn t side c := by
  unfold entriesOn
  rw [found]
  exact List.mem_map_of_mem leading

/-- The keys that planning a side notes. -/
def keysOn (t : Topology) (side : PeeringSide) (c : Connection) : List String :=
  (entriesOn t side c).map RouteEntry.key

/-- When a side has been planned its VPC is defined, and its keys are noted. -/
theorem defined_of_sideRoutes (run : (v.sideRoutes t side c).run s = .ok b s₁) :
    (t.vpc? (c.endOn side).vpc).isSome := by
  obtain ⟨vpc, _, found, -⟩ := run_bind_ok.mp run
  rw [Topology.requireVpc_ok (run_ofExcept_ok.mp found).1]
  rfl

theorem noted_of_sideRoutes (run : (v.sideRoutes t side c).run s = .ok b s₁) {k : String} :
    s₁.plannedRoutes.contains k ↔ s.plannedRoutes.contains k ∨ k ∈ keysOn t side c := by
  obtain ⟨-, noted, -⟩ := (sideRoutes_pending s.plannedRoutes side c).ok rfl run
  rw [noted]
  exact RouteEntry.contains_noteAll_pending

section Fixed

variable (fixed : v.backend = .fixed answer)
include fixed

theorem learn_mirrors {p : Published} (owner : Scope) (alone : p.kind.shareable = false) :
    Mirrors (v.Agree answer keys) (v.learn p owner) (v.learn p owner) := by
  intro s s' s₁ x agree run
  have same {s s₁ : Run} {x : String} (run : (v.learn p owner).run s = .ok x s₁) :
      s₁.plannedRoutes = s.plannedRoutes :=
    ((meets_learn (indifferent_plannedRoutes _)).ok rfl run).2.1
  obtain ⟨-, expected, after⟩ := (learn_foreseen fixed alone).ok rfl run
  cases run' : (v.learn p owner).run s' with
  | ok x' s₁' =>
    obtain ⟨-, expected', after'⟩ := (learn_foreseen fixed alone).ok agree.foreseen.symm run'
    rw [expected, Option.some.injEq] at expected'
    subst expected'
    refine ⟨s₁', rfl, after.trans after'.symm, fun k hk => ?_⟩
    rw [same run, same run', agree.noted k hk]
  | error e s₁' =>
    have missing := ((learn_foreseen fixed alone).error agree.foreseen.symm run').2.1
    rw [expected] at missing
    exact nomatch missing

/-- In runs that agree on the keys of a side, the routes of the side are the same. -/
theorem sideRoutes_mirrors (side : PeeringSide) (c : Connection) :
    Mirrors (v.Agree answer (keysOn t side c)) (v.sideRoutes t side c) (v.sideRoutes t side c) := by
  refine sideRoutes_paired (b := v.backend) (paired_mirrors _) (fun _ _ => ?_)
    (fun _ _ alone _ => learn_mirrors fixed _ alone) side fun vpc found r leading => ?_
  · intro s s' s₁ a _ run
    exact nomatch run
  · exact noteRoute_mirrors (List.mem_map_of_mem
      (entry_mem_entriesOn (Topology.requireVpc_ok found) leading))

/-- Planning a side leaves what is foreseen. -/
theorem sideRoutes_foreseen (F : RecallKey → Option String) (side : PeeringSide) (c : Connection) :
    Keeps (fun s => v.foreseen answer s = F) (v.sideRoutes t side c) := by
  refine sideRoutes_paired (b := v.backend) (closed_keeps _).paired (fun _ _ => keeps_throw)
    (fun _ p alone _ => ?_) side fun _ _ r _ => ?_
  · exact (learn_foreseen fixed alone).weaken (fun _ hs => hs) (fun _ _ hs => hs.2)
      fun _ hs => hs.2
  · exact PeeringPlan.noteRoute_keeps (fun _ _ hs => hs) _

/-- After a side has been planned, nothing is different for keys of another one. -/
theorem agree_of_sideRoutes (run : (v.sideRoutes t side c).run s = .ok b s₁)
    (apart : ∀ k ∈ keys, k ∉ keysOn t side c) : v.Agree answer keys s₁ s where
  foreseen := ((sideRoutes_foreseen fixed _ side c).ok rfl run).2
  noted k hk := by
    rw [Bool.eq_iff_iff, noted_of_sideRoutes run]
    exact or_iff_left (apart k hk)

end Fixed

end Vantage

/-! ## Both passes -/

/-- The other side. -/
def PeeringSide.other : PeeringSide → PeeringSide
  | .requester => .accepter
  | .accepter => .requester

@[simp] theorem PeeringSide.other_other (side : PeeringSide) : side.other.other = side := by
  cases side <;> rfl

theorem PeeringSide.eq_or_eq_other (side first : PeeringSide) :
    side = first ∨ side = first.other := by
  cases side <;> cases first <;> simp [other]

/-- When a connection has been classified and both sides are planned, it is routed. -/
theorem PeeringStage.both_sides (first : PeeringSide) :
    isDone .classified first = false ∧ (after .classified first).isDone first.other = false ∧
      (after .classified first).after first.other = .routed := by
  cases first <;> exact ⟨rfl, rfl, rfl⟩

namespace Vantage

variable {v : Vantage} {t : Topology} {answer : Query → Answer} {first : PeeringSide}
  {c c' : Connection} {s s' : Run}

/-- Both passes over a connection, first the one over a given side: what becomes of the
connection, and the batches of the two passes. -/
def planBoth (v : Vantage) (t : Topology) (first : PeeringSide) (c : Connection) :
    Lookup (Connection × RouteBatch × RouteBatch) := do
  let (c, batch) ← v.planSide t first c
  let (c, batch') ← v.planSide t first.other c
  pure (c, batch, batch')

/-- A pass over a side that is not planned yet plans its routes. -/
theorem planSide_open {side : PeeringSide} (open_ : c.stage.isDone side = false)
    {r : Connection × RouteBatch} :
    (v.planSide t side c).run s = .ok r s' ↔
      ∃ batch, (v.sideRoutes t side c).run s = .ok batch s' ∧ r = (advance side c, batch) := by
  rw [planSide_eq, if_neg (by simp [open_]), run_bind_ok]
  constructor
  · rintro ⟨batch, s₁, routed, last⟩
    obtain ⟨rfl, rfl⟩ := run_pure_ok.mp last
    exact ⟨batch, routed, rfl⟩
  · rintro ⟨batch, routed, rfl⟩
    exact ⟨batch, s', routed, rfl⟩

/-- Both passes over a connection that has been classified plan the routes of both sides. -/
theorem planBoth_ok (classified : c.stage = .classified)
    {r : Connection × RouteBatch × RouteBatch} :
    (v.planBoth t first c).run s = .ok r s' ↔
      ∃ batch s₁ batch', (v.sideRoutes t first c).run s = .ok batch s₁ ∧
        (v.sideRoutes t first.other c).run s₁ = .ok batch' s' ∧
        r = ({ c with stage := .routed }, batch, batch') := by
  obtain ⟨open₁, open₂, routed⟩ := PeeringStage.both_sides first
  rw [← classified] at open₁ open₂ routed
  have moved : v.sideRoutes t first.other (advance first c) = v.sideRoutes t first.other c := by
    rw [← sideRoutes_described, ← sideRoutes_described c]
    rfl
  have final : advance first.other (advance first c) = { c with stage := .routed } := by
    rw [← routed]
    rfl
  unfold planBoth
  constructor
  · intro run
    obtain ⟨_, s₁, one, run⟩ := run_bind_ok.mp run
    obtain ⟨batch, routed₁, rfl⟩ := (planSide_open open₁).mp one
    obtain ⟨_, s₂, two, last⟩ := run_bind_ok.mp run
    obtain ⟨batch', routed₂, rfl⟩ := (planSide_open open₂).mp two
    obtain ⟨rfl, rfl⟩ := run_pure_ok.mp last
    exact ⟨batch, s₁, batch', routed₁, moved ▸ routed₂, by rw [final]⟩
  · rintro ⟨batch, s₁, batch', routed₁, routed₂, rfl⟩
    refine run_bind_ok.mpr ⟨_, s₁, (planSide_open open₁).mpr ⟨batch, routed₁, rfl⟩, ?_⟩
    refine run_bind_ok.mpr ⟨_, s', (planSide_open open₂).mpr ⟨batch', moved ▸ routed₂, rfl⟩, ?_⟩
    rw [final]
    rfl

/-- If the keys of the two sides are different, the other order of the passes comes to the same,
with the same batch for either side. -/
theorem planBoth_other (fixed : v.backend = .fixed answer) (classified : c.stage = .classified)
    (apart : ∀ k ∈ keysOn t first.other c, k ∉ keysOn t first c) {near far : RouteBatch}
    (run : (v.planBoth t first c).run s = .ok (c', near, far) s') :
    ∃ s'', (v.planBoth t first.other c).run s = .ok (c', far, near) s'' := by
  obtain ⟨_, s₁, _, routed₁, routed₂, same⟩ := (planBoth_ok classified).mp run
  cases same
  -- the second pass as it is without the first one
  obtain ⟨s₂, alone, -⟩ :=
    sideRoutes_mirrors fixed _ c (agree_of_sideRoutes fixed routed₁ apart) routed₂
  have apart' : ∀ k ∈ keysOn t first c, k ∉ keysOn t first.other c :=
    fun k hk there => apart k there hk
  -- and the first one behind it
  obtain ⟨s₃, behind, -⟩ :=
    sideRoutes_mirrors fixed _ c (agree_of_sideRoutes fixed alone apart').symm routed₁
  refine ⟨s₃, (planBoth_ok classified).mpr ⟨far, s₂, near, alone, ?_, rfl⟩⟩
  rwa [PeeringSide.other_other]

/-! ## Sides that are planned already -/

/-- Of a side whose keys are all noted nothing is planned, by whichever unit. -/
theorem planRoutes_noted {side : PeeringSide} :
    ∀ {rs : List (String × VpcRoute)},
      (∀ r ∈ rs, s.plannedRoutes.contains (entry c side r.1 r.2).key) →
        (v.planRoutes t c side rs).run s = .ok {} s
  | [], _ => rfl
  | r :: rest, noted => by
    obtain ⟨first, others⟩ := List.forall_mem_cons.mp noted
    have passed : (v.planRoute t c side r.1 r.2).run s = .ok {} s := by
      rw [planRoute_eq]
      refine run_bind_ok.mpr ⟨false, s, ?_, rfl⟩
      rw [noteRoute_run]
      exact if_pos first
    exact run_bind_ok.mpr ⟨{}, s, passed, run_bind_ok.mpr ⟨{}, s, planRoutes_noted others, rfl⟩⟩

theorem sideRoutes_noted {side : PeeringSide} (defined : (t.vpc? (c.endOn side).vpc).isSome)
    (noted : ∀ k ∈ keysOn t side c, s.plannedRoutes.contains k) :
    (v.sideRoutes t side c).run s = .ok {} s := by
  obtain ⟨vpc, found⟩ := Option.isSome_iff_exists.mp defined
  refine run_bind_ok.mpr ⟨vpc, s, ?_, planRoutes_noted fun r leading => ?_⟩
  · rw [Topology.requireVpc, found]
    rfl
  · exact noted _ (List.mem_map_of_mem (entry_mem_entriesOn found leading))

/-- When both sides have been planned, their keys are noted. -/
theorem noted_of_planBoth (classified : c.stage = .classified)
    {r : Connection × RouteBatch × RouteBatch}
    (run : (v.planBoth t first c).run s = .ok r s') (side : PeeringSide) :
    (t.vpc? (c.endOn side).vpc).isSome ∧
      ∀ k ∈ keysOn t side c, s'.plannedRoutes.contains k := by
  obtain ⟨_, s₁, _, one, two, -⟩ := (planBoth_ok classified).mp run
  rcases side.eq_or_eq_other first with rfl | rfl
  · exact ⟨defined_of_sideRoutes one, fun k hk =>
      (noted_of_sideRoutes two).mpr (.inl ((noted_of_sideRoutes one).mpr (.inr hk)))⟩
  · exact ⟨defined_of_sideRoutes two, fun k hk => (noted_of_sideRoutes two).mpr (.inr hk)⟩

end Vantage

/-! ## Sequences of passes -/

/-- The keys of the routes of a batch. -/
def RouteBatch.keys (b : RouteBatch) : List String :=
  b.routes.map (·.key) ++ b.crossAccountRoutes.map (·.key)

theorem RouteBatch.eq_empty_of_keys {b : RouteBatch} (none : b.keys = []) : b = {} := by
  obtain ⟨routes, crossAccountRoutes⟩ := b
  simp only [keys, List.append_eq_nil_iff, List.map_eq_nil_iff] at none
  rw [none.1, none.2]

/-- A pass over a side of a connection that has succeeded. -/
structure Pass (t : Topology) where
  /-- The unit that makes the pass. -/
  vantage : Vantage
  side : PeeringSide
  connection : Connection
  before : Run
  /-- The connection afterwards. -/
  moved : Connection
  batch : RouteBatch
  after : Run
  run : (vantage.planSide t side connection).run before = .ok (moved, batch) after

namespace Pass

open Vantage

variable {t : Topology} {noted : NameSet} {ps : List (Pass t)} {c : Connection}

/-- The entries that a pass goes through: none if the side is planned already. -/
def entries (p : Pass t) : List RouteEntry :=
  if p.connection.stage.isDone p.side then [] else entriesOn t p.side p.connection

/-- A pass emits a route for each of its entries that is pending, and notes their keys. -/
theorem plans (p : Pass t) :
    p.after.plannedRoutes = RouteEntry.noteAll p.before.plannedRoutes
        (RouteEntry.pending p.before.plannedRoutes p.entries) ∧
      p.batch.keys.Perm
        ((RouteEntry.pending p.before.plannedRoutes p.entries).map RouteEntry.key) := by
  unfold entries
  obtain ⟨done, same, unchanged⟩ | ⟨open_, batch, routed, same⟩ := planSide_ok p.run
  · rw [if_pos done, unchanged, (Prod.mk.inj same).2]
    exact ⟨rfl, .nil⟩
  · obtain ⟨-, noted, realized⟩ :=
      (sideRoutes_pending p.before.plannedRoutes p.side p.connection).ok rfl routed
    rw [if_neg (by simp [open_]), noted, (Prod.mk.inj same).2]
    exact ⟨rfl, realized.keys⟩

/-- Passes one after another, the first one where some keys are noted. What happens between
two of them notes no keys. -/
def Chained : NameSet → List (Pass t) → Prop
  | _, [] => True
  | noted, p :: ps => p.before.plannedRoutes = noted ∧ Chained p.after.plannedRoutes ps

/-- The keys of all routes that passes emit. -/
def emitted (ps : List (Pass t)) : List String := ps.flatMap fun p => p.batch.keys

/-- Passes one after another emit a route for each entry that they go through and that is pending
before them all. -/
theorem emitted_keys : ∀ {noted : NameSet} {ps : List (Pass t)}, Chained noted ps →
    (emitted ps).Perm ((RouteEntry.pending noted (ps.flatMap entries)).map RouteEntry.key)
  | _, [], _ => .nil
  | _, p :: ps, ⟨began, rest⟩ => by
    obtain ⟨after, batch⟩ := p.plans
    rw [after] at rest
    rw [← began, List.flatMap_cons, RouteEntry.pending_append, List.map_append]
    exact batch.append (emitted_keys rest)

/-- The pass is over a copy of a connection, however far that is planned. -/
def Over (p : Pass t) (c : Connection) : Prop := p.connection.described = c.described

theorem entries_of_over {p : Pass t} (copies : p.Over c) :
    p.entries = if p.connection.stage.isDone p.side then [] else entriesOn t p.side c := by
  rw [entries, ← entriesOn_described, copies, entriesOn_described]

/-- Over copies of a connection no key is emitted twice. What is emitted are the keys of the sides
that are passed over before they are planned, without those that were noted. -/
theorem emitted_once (chained : Chained noted ps) (copies : ∀ p ∈ ps, p.Over c) :
    (emitted ps).Nodup ∧ ∀ k, k ∈ emitted ps ↔ noted.contains k = false ∧
      ∃ p ∈ ps, p.connection.stage.isDone p.side = false ∧ k ∈ keysOn t p.side c := by
  have keys := emitted_keys chained
  refine ⟨keys.nodup_iff.mpr RouteEntry.nodup_pending, fun k => ?_⟩
  rw [keys.mem_iff, RouteEntry.mem_pending_keys, List.map_flatMap, List.mem_flatMap]
  refine and_congr_right fun _ => exists_congr fun p => and_congr_right fun hp => ?_
  rw [entries_of_over (copies p hp)]
  cases p.connection.stage.isDone p.side with
  | true => simp
  | false => simp [keysOn]

/-- Where all keys of a connection are noted, passes over its copies emit nothing. -/
theorem batch_of_noted (chained : Chained noted ps) (copies : ∀ p ∈ ps, p.Over c)
    (all : ∀ side, ∀ k ∈ keysOn t side c, noted.contains k) : ∀ p ∈ ps, p.batch = {} := by
  intro p hp
  apply RouteBatch.eq_empty_of_keys
  rw [List.eq_nil_iff_forall_not_mem]
  intro k hk
  obtain ⟨new, q, -, -, there⟩ :=
    ((emitted_once chained copies).2 k).mp (List.mem_flatMap.mpr ⟨p, hp, hk⟩)
  rw [all q.side k there] at new
  exact nomatch new

end Pass

/-! ## The order of passes -/

/-- The two passes over a connection do not depend on their order, nor on what comes after
them. -/
structure IndependentPasses (v : Vantage) (t : Topology) (c : Connection) (s : Run) : Prop where
  /-- Either order succeeds if the other one does, and the pass over a side gives the same
  batch. -/
  order : ∀ c' requested accepted,
    (∃ s', (v.planBoth t .requester c).run s = .ok (c', requested, accepted) s') ↔
      ∃ s', (v.planBoth t .accepter c).run s = .ok (c', accepted, requested) s'
  /-- Afterwards the connection is routed, and nothing else of it is changed. -/
  routed : ∀ first r s', (v.planBoth t first c).run s = .ok r s' →
    r.1 = { c with stage := .routed }
  /-- Where the keys are noted that both passes leave, a pass over a copy of the connection
  succeeds and does nothing. -/
  again : ∀ first r s', (v.planBoth t first c).run s = .ok r s' →
    ∀ (w : Vantage) (side : PeeringSide) (copy : Connection) (s₁ : Run),
      copy.described = c.described → s₁.plannedRoutes = s'.plannedRoutes →
        ∃ moved, (w.planSide t side copy).run s₁ = .ok (moved, {}) s₁
  /-- Whatever passes over copies follow, their batches are empty. -/
  further : ∀ first r s', (v.planBoth t first c).run s = .ok r s' →
    ∀ ps : List (Pass t), Pass.Chained s'.plannedRoutes ps → (∀ p ∈ ps, p.Over c) →
      ∀ p ∈ ps, p.batch = {}
  /-- Whatever passes are made over copies, no route is emitted twice. The routes that are emitted
  are those of the sides that are passed over, without those whose keys were noted before. -/
  once : ∀ ps : List (Pass t), Pass.Chained s.plannedRoutes ps → (∀ p ∈ ps, p.Over c) →
    (Pass.emitted ps).Nodup ∧ ∀ k, k ∈ Pass.emitted ps ↔ s.plannedRoutes.contains k = false ∧
      ∃ p ∈ ps, p.connection.stage.isDone p.side = false ∧ k ∈ Vantage.keysOn t p.side c

/-- Where names of VPCs hold no underscore, entries of one connection with one key are of one
VPC. -/
theorem RouteEntry.vpc_of_key {e e' : RouteEntry} (connection : e.connectionKey = e'.connectionKey)
    (plain : '_' ∉ e.own.vpc.toList) (plain' : '_' ∉ e'.own.vpc.toList) (same : e.key = e'.key) :
    e.own.vpc = e'.own.vpc := by
  have parts := congrArg Key.parts same
  simp only [key, Key.route, Key.parts_joined, connection, Key.parts_plain plain,
    Key.parts_plain plain', List.append_assoc, List.append_cancel_left_eq, List.singleton_append]
    at parts
  exact String.toList_inj.mp (List.cons.inj parts).1

namespace Topology

variable {t : Topology} {accounts : Registry} {scope : Scope} {pathPrefix : String}
  {cs : List Connection} {c : Connection}

/-- A connection of a valid topology leads from one VPC to another. -/
theorem Faultless.ends_apart (faultless : t.Faultless)
    (made : t.connectionsOf accounts scope pathPrefix = .ok cs) (hc : c ∈ cs) :
    c.requester.vpc ≠ c.accepter.vpc ∧
      ∀ side, ∃ vpc ∈ t.network.vpcs, vpc.name = (c.endOn side).vpc := by
  obtain ⟨p, hp, x, y, a, b, account, other, near, far, names, first, second, -, -, nearOk, farOk,
    rfl⟩ := connectionsOf_made made hc
  obtain ⟨listedA, nameA⟩ := vpc?_some first
  obtain ⟨listedB, nameB⟩ := vpc?_some second
  have nearVpc := (peeringEnd_ok nearOk).1
  have farVpc := (peeringEnd_ok farOk).1
  refine ⟨?_, fun side => ?_⟩
  · show near.vpc ≠ far.vpc
    rw [nearVpc, farVpc, nameA, nameB]
    exact faultless.peered_apart hp names
  · cases side with
    | requester => exact ⟨a, listedA, nearVpc.symm⟩
    | accepter => exact ⟨b, listedB, farVpc.symm⟩

open Vantage in
/-- Where names of VPCs hold no underscore, the two sides of a connection have no key in common. -/
theorem Faultless.keys_apart (faultless : t.Faultless)
    (plain : ∀ vpc ∈ t.network.vpcs, '_' ∉ vpc.name.toList)
    (made : t.connectionsOf accounts scope pathPrefix = .ok cs) (hc : c ∈ cs)
    (first : PeeringSide) : ∀ k ∈ keysOn t first.other c, k ∉ keysOn t first c := by
  obtain ⟨different, defined⟩ := faultless.ends_apart made hc
  have plainOn (side : PeeringSide) : '_' ∉ (c.endOn side).vpc.toList := by
    obtain ⟨vpc, listed, name⟩ := defined side
    exact name ▸ plain vpc listed
  intro k hk hk'
  obtain ⟨e, he, rfl⟩ := List.mem_map.mp hk
  obtain ⟨e', he', same⟩ := List.mem_map.mp hk'
  obtain ⟨_, r, -, -, rfl⟩ := mem_entriesOn he
  obtain ⟨_, r', -, -, rfl⟩ := mem_entriesOn he'
  have vpcs : (entry c first r'.1 r'.2).own.vpc = (entry c first.other r.1 r.2).own.vpc :=
    RouteEntry.vpc_of_key rfl (plainOn first) (plainOn first.other) same
  cases first with
  | requester => exact different vpcs
  | accepter => exact different vpcs.symm

end Topology

/-- In a valid topology in which no VPC has an underscore in its name, the passes over the
connections of a unit are independent if answers are fixed, whatever has been learned and planned
before. -/
theorem passes_independent {t : Topology} (valid : t.validate = .ok ())
    (plain : ∀ vpc ∈ t.network.vpcs, '_' ∉ vpc.name.toList) {v : Vantage}
    {answer : Query → Answer} (fixed : v.backend = .fixed answer) {cs : List Connection}
    (made : t.connectionsOf v.accounts v.caller v.pathPrefix = .ok cs) {c : Connection}
    (hc : c ∈ cs) (s : Run) : IndependentPasses v t c s := by
  have classified := Topology.connectionsOf_classified made c hc
  have apart := (Topology.faultless_of_validate valid).keys_apart plain made hc
  constructor
  case order =>
    intro c' requested accepted
    constructor
    · rintro ⟨s', run⟩
      exact Vantage.planBoth_other fixed classified (apart .requester) run
    · rintro ⟨s', run⟩
      exact Vantage.planBoth_other fixed classified (apart .accepter) run
  case routed =>
    intro first r s' run
    obtain ⟨_, _, _, -, -, rfl⟩ := (Vantage.planBoth_ok classified).mp run
    rfl
  case again =>
    intro first r s' run w side copy s₁ same noted
    obtain ⟨defined, all⟩ := Vantage.noted_of_planBoth classified run side
    rw [← noted] at all
    cases done : copy.stage.isDone side with
    | true => exact ⟨copy, Vantage.planSide_done done⟩
    | false =>
      refine ⟨_, (Vantage.planSide_open done).mpr ⟨{}, ?_, rfl⟩⟩
      rw [← Vantage.sideRoutes_described, same, Vantage.sideRoutes_described]
      exact Vantage.sideRoutes_noted defined all
  case further =>
    intro first r s' run ps chained copies
    exact Pass.batch_of_noted chained copies fun side =>
      (Vantage.noted_of_planBoth classified run side).2
  case once =>
    intro ps chained copies
    exact Pass.emitted_once chained copies

/-- In the sample both orders come to one route for each side. -/
theorem passes_independent_sample :
    ∃ c, Topology.sample.connectionsOf Topology.sample.registry ⟨"Workload", "us-east-1"⟩ "accel" =
        .ok [c] ∧
      IndependentPasses Topology.sample.workload .sample c {} ∧
      ∃ c' requested accepted, requested.keys = ["AppShared_App_private_shared"] ∧
        accepted.keys = ["AppShared_Shared_main_app"] ∧
        (∃ s, (Topology.sample.workload.planBoth .sample .requester c).run {} =
          .ok (c', requested, accepted) s) ∧
        ∃ s, (Topology.sample.workload.planBoth .sample .accepter c).run {} =
          .ok (c', accepted, requested) s := by
  obtain ⟨c, made, both⟩ :
      ∃ c, Topology.sample.connectionsOf Topology.sample.registry ⟨"Workload", "us-east-1"⟩
          "accel" = .ok [c] ∧
        (Topology.sample.workload.planBoth .sample .requester c).comesTo (fun r => decide
          (r.2.1.keys = ["AppShared_App_private_shared"] ∧
            r.2.2.keys = ["AppShared_Shared_main_app"])) = true :=
    ⟨_, rfl, by decide +kernel⟩
  obtain ⟨⟨c', requested, accepted⟩, s, run, check⟩ := Lookup.exists_of_comesTo both
  obtain ⟨near, far⟩ := of_decide_eq_true check
  have independent : IndependentPasses Topology.sample.workload .sample c {} :=
    passes_independent rfl (by decide) rfl made List.mem_cons_self {}
  exact ⟨c, made, independent, c', requested, accepted, near, far, ⟨s, run⟩,
    (independent.order c' requested accepted).mp ⟨s, run⟩⟩

end Interlink
