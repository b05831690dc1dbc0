import Interlink.Proofs.Walks

/-!
# The stages of a plan

A plan that has been built came of a map, of the edges and the static routes
that were read off the map, of the peerings and of the associations of rules, in
this order (`Plan.build_ok`). The run passes through three of these stages only.

Whatever else a run has noted, building a map leaves as it is
(`UnitMap.build_keeps`). Peerings and associations of rules need a few values of
fixed sorts. So a run keeps in these stages whatever it keeps while such a value is
learned (`PeeringPlan.build_keeps`, `RuleAssociation.build_keeps`), and in
particular it only goes on.
-/

namespace Interlink

open Lookup

/-- Nothing but looking up happens while a map is built. -/
theorem UnitMap.build_keeps {v : Vantage} {t : Topology} {J : Run → Prop}
    (h : Run.Indifferent J) : Keeps J (build v t) :=
  build_closed (closed_keeps J) (fun _ _ _ => Vantage.keeps_learn h)
    (fun _ _ _ _ _ => Vantage.resolveAttachment_keeps h) fun _ _ => keeps_throw

/-! ## Peerings -/

namespace PeeringPlan

variable {v : Vantage} {t : Topology} {J : Run → Prop} {s s' : Run}

theorem noteRoute_keeps
    (planned : ∀ s key, J s → J { s with plannedRoutes := s.plannedRoutes.add key })
    (key : String) : Keeps J (Vantage.noteRoute key) := by
  unfold Vantage.noteRoute
  refine Meets.bind _ meets_get fun got => ?_
  split
  · exact meets_pure fun _ hs => hs.2
  · refine Meets.bind (fun _ s => J s) (meets_set ?_) fun _ => keeps_pure
    rintro s ⟨rfl, hs⟩
    exact ⟨⟨List.prefix_refl _, id⟩, planned _ _ hs⟩

/-- What learning values that are not shared keeps, and noting the key of a
route, planning the peerings keeps. -/
theorem build_keeps
    (learned : ∀ p owner, p.kind.shareable = false → Keeps J (v.learn p owner))
    (planned : ∀ s key, J s → J { s with plannedRoutes := s.plannedRoutes.add key }) :
    Keeps J (build v t) :=
  build_closed (closed_keeps J) learned (noteRoute_keeps planned) fun _ _ => keeps_throw

theorem continues {p : PeeringPlan} (run : (build v t).run s = .ok p s') : s.Continues s' := by
  have kept : Keeps (fun _ => True) (build v t) :=
    build_keeps (fun _ _ _ => Vantage.keeps_learn Run.indifferent_true) fun _ _ _ => trivial
  exact (kept.ok trivial run).1

end PeeringPlan

/-! ## Associations of rules -/

namespace RuleAssociation

variable {v : Vantage} {t : Topology} {J : Run → Prop} {s s' : Run}

/-- What learning the ids keeps, associating the rules keeps. -/
theorem build_keeps
    (rules : ∀ rule ∈ t.network.resolverRules,
      Keeps J (v.learn (.resolverRule rule.name) ⟨rule.account, rule.region⟩))
    (vpcs : ∀ name, Keeps J (v.learn (.vpc name) v.caller)) : Keeps J (build v t) :=
  build_closed (closed_keeps J) rules vpcs fun _ _ => keeps_throw

theorem continues {as : List RuleAssociation} (run : (build v t).run s = .ok as s') :
    s.Continues s' := by
  have kept : Keeps (fun _ => True) (build v t) :=
    build_keeps (fun _ _ => Vantage.keeps_learn Run.indifferent_true)
      fun _ => Vantage.keeps_learn Run.indifferent_true
  exact (kept.ok trivial run).1

end RuleAssociation

/-! ## The whole -/

/-- What a plan that was built consists of, and the runs between its stages. -/
theorem Plan.build_ok {v : Vantage} {t : Topology} {s s' : Run} {p : Plan}
    (run : (build v t).run s = .ok p s') :
    ∃ m s₁ edges routes peering s₂ rules, (UnitMap.build v t).run s = .ok m s₁ ∧
      edgesOf m t = .ok edges ∧ m.gatewayRoutes t = .ok routes ∧
      (PeeringPlan.build v t).run s₁ = .ok peering s₂ ∧
      (RuleAssociation.build v t).run s₂ = .ok rules s' ∧
      p = assemble ⟨v.caller, v.pathPrefix, s'.stats⟩ m edges routes peering rules := by
  obtain ⟨_, _, member, run⟩ := run_bind_ok.mp run
  obtain ⟨-, rfl⟩ := Lookup.run_ofExcept_ok.mp member
  obtain ⟨m, s₁, mapped, run⟩ := run_bind_ok.mp run
  obtain ⟨edges, _, planned, run⟩ := run_bind_ok.mp run
  obtain ⟨edgesOk, rfl⟩ := Lookup.run_ofExcept_ok.mp planned
  obtain ⟨routes, _, planned, run⟩ := run_bind_ok.mp run
  obtain ⟨routesOk, rfl⟩ := Lookup.run_ofExcept_ok.mp planned
  obtain ⟨peering, s₂, built, run⟩ := run_bind_ok.mp run
  obtain ⟨rules, s₃, associated, run⟩ := run_bind_ok.mp run
  obtain ⟨_, _, got, last⟩ := run_bind_ok.mp run
  obtain ⟨rfl, rfl⟩ := run_pure_ok.mp last
  cases got
  exact ⟨m, s₁, edges, routes, peering, s₂, rules, mapped, edgesOk, routesOk, built, associated,
    rfl⟩

/-- Only the unit of a known account is planned. -/
theorem Plan.member_of_build {v : Vantage} {t : Topology} {s s' : Run} {p : Plan}
    (run : (build v t).run s = .ok p s') :
    ∃ id, Vantage.requireId v.accounts v.caller.account v.caller = .ok id := by
  obtain ⟨id, _, member, -⟩ := run_bind_ok.mp run
  exact ⟨id, (Lookup.run_ofExcept_ok.mp member).1⟩

/-- A unit of a known account is planned when its stages come to something. -/
theorem Plan.build_of_stages {v : Vantage} {t : Topology} {s s₁ s₂ s₃ : Run} {id : String}
    {m : UnitMap} {edges : EdgeGraph} {routes : List GatewayRoute} {peering : PeeringPlan}
    {rules : List RuleAssociation}
    (member : Vantage.requireId v.accounts v.caller.account v.caller = .ok id)
    (mapped : (UnitMap.build v t).run s = .ok m s₁) (edgesOk : edgesOf m t = .ok edges)
    (routesOk : m.gatewayRoutes t = .ok routes)
    (built : (PeeringPlan.build v t).run s₁ = .ok peering s₂)
    (associated : (RuleAssociation.build v t).run s₂ = .ok rules s₃) :
    (build v t).run s =
      .ok (assemble ⟨v.caller, v.pathPrefix, s₃.stats⟩ m edges routes peering rules) s₃ :=
  run_bind_ok.mpr ⟨id, s, run_ofExcept_ok.mpr ⟨member, rfl⟩,
    run_bind_ok.mpr ⟨m, s₁, mapped,
    run_bind_ok.mpr ⟨edges, s₁, run_ofExcept_ok.mpr ⟨edgesOk, rfl⟩,
    run_bind_ok.mpr ⟨routes, s₁, run_ofExcept_ok.mpr ⟨routesOk, rfl⟩,
    run_bind_ok.mpr ⟨peering, s₂, built,
    run_bind_ok.mpr ⟨rules, s₃, associated,
    run_bind_ok.mpr ⟨s₃, s₃, rfl, rfl⟩⟩⟩⟩⟩⟩⟩

end Interlink
