import Interlink.Proofs.PeeringRoutes

/-!
# Passes over peerings that fail

A pass over a side of a connection notes the key of an entry before it looks up the
entry's route table and destination, and the run keeps the key if a lookup fails. The
connection stays as it was, so the pass can be made again. But the entries that the
first pass had met count as planned, those that it had planned and the one that failed
alike, and their routes were lost with it.

`failed_pass_spends` says what is left for the second pass: the pending entries that the
first one had not met. A pass can be made again without loss if and only if it had met
no pending entry, and then it failed because the VPC is not defined.
-/

namespace Interlink

namespace RouteEntry

/-- When some of the pending entries have been noted, the others are pending. -/
theorem pending_noteAll {noted : NameSet} {es spent left : List RouteEntry}
    (split : pending noted es = spent ++ left) : pending (noteAll noted spent) es = left := by
  induction es generalizing noted spent with
  | nil => exact (List.append_eq_nil_iff.mp split.symm).2.symm
  | cons e es ih =>
    rw [pending] at split
    by_cases known : noted.contains e.key = true
    · rw [if_pos known] at split
      rw [pending, if_pos (contains_noteAll.mpr (.inl known))]
      exact ih split
    · rw [if_neg known] at split
      cases spent with
      | nil =>
        show pending noted (e :: es) = left
        rw [pending, if_neg known]
        exact split
      | cons first spent =>
        obtain ⟨rfl, others⟩ := List.cons.inj split
        have noted' : (noteAll noted (e :: spent)).contains e.key :=
          contains_noteAll.mpr (.inr (by simp))
        rw [pending, if_pos noted']
        have rest : pending (noteAll (noted.add e.key) spent) es = left := ih others
        exact rest

end RouteEntry

namespace Vantage

open Lookup

variable {v : Vantage} {t : Topology} {side : PeeringSide} {c : Connection} {s s' : Run}
  {e : PlanError}

/-- What a failed pass over a side of a connection means for further passes: some pending entries
are spent and the others are left. -/
structure FailedPass (t : Topology) (side : PeeringSide) (c : Connection) (s s' : Run)
    (spent left : List RouteEntry) : Prop where
  pending : RouteEntry.pending s.plannedRoutes (entriesOn t side c) = spent ++ left
  /-- The keys of what is spent are noted. -/
  noted : s'.plannedRoutes = RouteEntry.noteAll s.plannedRoutes spent
  /-- Something is spent unless the VPC of the side is not defined. -/
  spent_iff : spent = [] ↔ t.vpc? (c.endOn side).vpc = none
  /-- The keys that are noted stay as they were if and only if nothing is spent. -/
  unchanged_iff : s'.plannedRoutes = s.plannedRoutes ↔ spent = []
  /-- A pass that succeeds where this one began plans all pending entries, whatever it is told. -/
  instead : ∀ (w : Vantage) (s₀ s₁ : Run) (r : Connection × RouteBatch),
    s₀.plannedRoutes = s.plannedRoutes → (w.planSide t side c).run s₀ = .ok r s₁ →
      r.1 = advance side c ∧ w.Realizes t s₁ (spent ++ left) r.2
  /-- A pass that succeeds afterwards plans those that are left, and the side then counts as
  planned. -/
  afterwards : ∀ (w : Vantage) (s₀ s₁ : Run) (r : Connection × RouteBatch),
    s₀.plannedRoutes = s'.plannedRoutes → (w.planSide t side c).run s₀ = .ok r s₁ →
      r.1 = advance side c ∧ w.Realizes t s₁ left r.2

/-- A pass over a side that is planned does not fail. -/
theorem unplanned_of_failed (failed : (v.planSide t side c).run s = .error e s') :
    c.stage.isDone side = false := by
  by_contra planned
  rw [planSide_done (eq_true_of_ne_false planned)] at failed
  exact nomatch failed

/-- A pass fails when some pending entries have been met, or because its VPC is not defined. -/
theorem exists_spent (failed : (v.planSide t side c).run s = .error e s') :
    ∃ spent left, RouteEntry.pending s.plannedRoutes (entriesOn t side c) = spent ++ left ∧
      s'.plannedRoutes = RouteEntry.noteAll s.plannedRoutes spent ∧
      (spent = [] ↔ t.vpc? (c.endOn side).vpc = none) := by
  have unplanned := unplanned_of_failed failed
  rcases ((planSide_pending s.plannedRoutes unplanned).error rfl failed).2 with
    ⟨undefined, same⟩ | ⟨spent, left, split, some, noted⟩
  · exact ⟨[], [], by rw [entriesOn_of_undefined undefined]; rfl, same, by simp [undefined]⟩
  · refine ⟨spent, left, split, noted, ?_⟩
    constructor
    · intro nothing
      exact absurd nothing some
    · intro undefined
      rw [entriesOn_of_undefined undefined] at split
      exact (List.append_eq_nil_iff.mp split.symm).1

end Vantage

open Vantage

/-- Whatever a pass over a side of a connection had met when it failed is spent: it is planned by
no later pass. -/
theorem failed_pass_spends {v : Vantage} {t : Topology} {side : PeeringSide} {c : Connection}
    {s s' : Run} {e : PlanError} (failed : (v.planSide t side c).run s = .error e s') :
    ∃ spent left, FailedPass t side c s s' spent left := by
  have unplanned := unplanned_of_failed failed
  obtain ⟨spent, left, split, noted, spent_iff⟩ := exists_spent failed
  refine ⟨spent, left, split, noted, spent_iff, ?unchanged, ?instead, ?afterwards⟩
  case unchanged =>
    constructor
    · intro same
      by_contra some
      obtain ⟨first, others, rfl⟩ := List.exists_cons_of_ne_nil some
      have new := RouteEntry.pending_new first (by rw [split]; simp)
      rw [← same, noted, RouteEntry.contains_noteAll.mpr (.inr (by simp))] at new
      exact nomatch new
    · rintro rfl
      exact noted
  case instead =>
    intro w s₀ s₁ r same run
    obtain ⟨-, advanced, -, realized⟩ := (planSide_pending s.plannedRoutes unplanned).ok same run
    rw [split] at realized
    exact ⟨advanced, realized⟩
  case afterwards =>
    intro w s₀ s₁ r same run
    obtain ⟨-, advanced, -, realized⟩ := (planSide_pending s'.plannedRoutes unplanned).ok same run
    rw [noted, RouteEntry.pending_noteAll split] at realized
    exact ⟨advanced, realized⟩

/-- The sample with two routes of each VPC that lead over the peering. -/
def Topology.sampleTwoRoutes : Topology where
  settings := sample.settings
  accounts := sample.accounts
  network :=
    { sample.network with
      vpcs := sample.network.vpcs.map fun vpc =>
        { vpc with
          routeTables := vpc.routeTables.map fun table =>
            { table with
              routes := table.routes ++
                table.routes.map fun r => { r with name := r.name ++ "-2" } } } }

/-- The unit of the attached VPC, where nothing is published when the first question is asked,
and everything from then on. -/
def Topology.recovering : Vantage :=
  sampleTwoRoutes.vantage ⟨"Workload", "us-east-1"⟩ fun past _ =>
    if past.isEmpty then .missing else .value "id"

/-- What comes of a pass that is made a second time when the first one has failed: the run
between the two, and the batch of the second. -/
def Vantage.planAgain (v : Vantage) (t : Topology) (side : PeeringSide) (c : Connection) :
    Option (Run × RouteBatch) :=
  match (v.planSide t side c).run {} with
  | .ok .. => none
  | .error _ s =>
    match (v.planSide t side c).run s with
    | .ok r _ => some (s, r.2)
    | .error .. => none

theorem Vantage.planAgain_eq_some {v : Vantage} {t : Topology} {side : PeeringSide} {c : Connection}
    {s : Run} {b : RouteBatch} (h : v.planAgain t side c = some (s, b)) :
    ∃ e r s', (v.planSide t side c).run {} = .error e s ∧
      (v.planSide t side c).run s = .ok r s' ∧ r.2 = b := by
  unfold planAgain at h
  cases first : (v.planSide t side c).run {} with
  | ok r s' => simp [first] at h
  | error e s₁ =>
    simp only [first] at h
    cases second : (v.planSide t side c).run s₁ with
    | error e' s' => simp [second] at h
    | ok r s' =>
      simp only [second, Option.some.injEq, Prod.mk.injEq] at h
      obtain ⟨rfl, rfl⟩ := h
      exact ⟨e, r, s', rfl, second, rfl⟩

/-- In a valid topology a pass that fails when it looks up the first of two routes has noted the
key of this route. When it is made again, after the lookup has been repaired, it plans the second
route only. Had the first pass succeeded, it would have planned both. -/
theorem route_spent :
    Topology.sampleTwoRoutes.validate = .ok () ∧
    ∃ c, Topology.sampleTwoRoutes.connectionsOf Topology.sampleTwoRoutes.registry
        ⟨"Workload", "us-east-1"⟩ "accel" = .ok [c] ∧
      (∃ e s r s', (Topology.recovering.planSide .sampleTwoRoutes .requester c).run {} =
          .error e s ∧ s.plannedRoutes.keys = ["AppShared_App_private_shared"] ∧
        (Topology.recovering.planSide .sampleTwoRoutes .requester c).run s = .ok r s' ∧
        r.2.routes.map (·.key) = ["AppShared_App_private_shared-2"]) ∧
      ∃ r s, (Topology.sampleTwoRoutes.workload.planSide .sampleTwoRoutes .requester c).run {} =
          .ok r s ∧
        r.2.routes.map (·.key) =
          ["AppShared_App_private_shared", "AppShared_App_private_shared-2"] := by
  obtain ⟨c, made, again, instead⟩ :
      ∃ c, Topology.sampleTwoRoutes.connectionsOf Topology.sampleTwoRoutes.registry
          ⟨"Workload", "us-east-1"⟩ "accel" = .ok [c] ∧
        (Topology.recovering.planAgain .sampleTwoRoutes .requester c).map
            (fun x => (x.1.plannedRoutes.keys, x.2.routes.map (·.key))) =
          some (["AppShared_App_private_shared"], ["AppShared_App_private_shared-2"]) ∧
        (Topology.sampleTwoRoutes.workload.planSide .sampleTwoRoutes .requester c).comesTo (fun r =>
          decide (r.2.routes.map (·.key) =
            ["AppShared_App_private_shared", "AppShared_App_private_shared-2"])) = true :=
    ⟨_, rfl, by decide +kernel, by decide +kernel⟩
  obtain ⟨⟨s, b⟩, twice, found⟩ := Option.map_eq_some_iff.mp again
  obtain ⟨keys, routes⟩ := Prod.mk.inj found
  obtain ⟨e, r, s', first, second, rfl⟩ := Vantage.planAgain_eq_some twice
  obtain ⟨r₀, s₀, whole, both⟩ := Lookup.exists_of_comesTo instead
  exact ⟨rfl, c, made, ⟨e, s, r, s', first, keys, second, routes⟩, r₀, s₀, whole,
    of_decide_eq_true both⟩

/-- In the same pass one entry is spent and the other is left. -/
theorem failed_pass_spends_sample :
    ∃ c e s, (Topology.recovering.planSide .sampleTwoRoutes .requester c).run {} = .error e s ∧
      ∃ spent left, FailedPass .sampleTwoRoutes .requester c {} s spent left ∧
        spent.map RouteEntry.key = ["AppShared_App_private_shared"] ∧
        left.map RouteEntry.key = ["AppShared_App_private_shared-2"] := by
  obtain ⟨c, -, again, pending⟩ :
      ∃ c, Topology.sampleTwoRoutes.connectionsOf Topology.sampleTwoRoutes.registry
          ⟨"Workload", "us-east-1"⟩ "accel" = .ok [c] ∧
        (Topology.recovering.planAgain .sampleTwoRoutes .requester c).map
            (fun x => x.1.plannedRoutes.keys) = some ["AppShared_App_private_shared"] ∧
        (RouteEntry.pending .empty (entriesOn .sampleTwoRoutes .requester c)).map RouteEntry.key =
          ["AppShared_App_private_shared", "AppShared_App_private_shared-2"] :=
    ⟨_, rfl, by decide +kernel, by decide +kernel⟩
  obtain ⟨⟨s, b⟩, twice, noted⟩ := Option.map_eq_some_iff.mp again
  obtain ⟨e, r, s', failed, -, -⟩ := Vantage.planAgain_eq_some twice
  obtain ⟨spent, left, pass⟩ := failed_pass_spends failed
  have keys : spent.map RouteEntry.key ++ left.map RouteEntry.key =
      ["AppShared_App_private_shared", "AppShared_App_private_shared-2"] := by
    rw [← List.map_append, ← pass.pending]
    exact pending
  -- what is spent is noted, and only the first key is
  have first : ∀ k ∈ spent.map RouteEntry.key, k = "AppShared_App_private_shared" := by
    intro k hk
    have there : k ∈ s.plannedRoutes.keys := by
      rw [pass.noted]
      exact SortedMap.mem_keys.mpr (RouteEntry.contains_noteAll.mpr (.inr hk))
    rw [noted] at there
    exact List.mem_singleton.mp there
  refine ⟨c, e, s, failed, spent, left, pass, ?_⟩
  cases spent with
  | nil =>
    have same := pass.unchanged_iff.mpr rfl
    rw [same] at noted
    exact absurd noted (by decide)
  | cons x others =>
    cases others with
    | nil =>
      obtain ⟨-, rest⟩ := List.cons.inj keys
      exact ⟨by rw [List.map_singleton, first x.key (by simp)], rest⟩
    | cons y others =>
      obtain ⟨-, rest⟩ := List.cons.inj keys
      have second := first y.key (by simp)
      rw [(List.cons.inj rest).1] at second
      exact absurd second (by decide)

end Interlink
