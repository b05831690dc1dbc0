import Interlink.Proofs.Failures
import Interlink.Proofs.Paths

/-!
# From requests to a plan

A plan comes of requests, one after another, and of refusals in between. A sort
of property that passes from the steps to the steps taken together is `Closed`;
if the requests and the refusals have it, then every stage has it, and so has the
plan (`Plan.build_closed`). The stages are gone through here once for all such
properties, and what a stage asks for is said in the premises.

More generally, two units that ask different backends go through the same stages
side by side. So the stages are gone through in pairs, and `Paired` is said of
relations between two lookups; a property is a relation that does not look at the
second one (`Closed.paired`). Whose values a stage needs is said as exactly as the
topology says it (`Plan.build_paired`).

Of the refusals only those can be reached that find a fault in the topology
(`PlanError.OfTopology`). Two places would refuse for something that was not
found although nothing has been asked: an attachment of another owner without the
id of its gateway, and a static route without the id of its route table. Either
id is that of the unit's own gateway, and these are in the map from the beginning.
So neither place is reached, whatever the topology is.
-/

namespace Interlink

/-- A fault of the topology: something cannot be planned as it is described, or an
edge is asked for twice. -/
inductive PlanError.OfTopology : PlanError → Prop
  | misconfigured {fault : Misconfiguration} {scope : Scope} :
      OfTopology (.misconfigured fault scope)
  | repeatedEdge {key : String} {scope : Scope} : OfTopology (.repeatedEdge key scope)

namespace Lookup

/-- A sort of property of lookups that is a property of two steps if it is one of
both. Of the second step this need be known only as it follows the first. -/
structure Closed (P : (α : Type) → Lookup α → Prop) : Prop where
  pure : ∀ {α : Type} (a : α), P α (pure a)
  bind : ∀ {α β : Type} {x : Lookup α} {f : α → Lookup β}, P α x →
    (∀ a s s', x.run s = .ok a s' → P β (f a)) → P β (x >>= f)

/-- What a run satisfies, a lookup may keep. -/
theorem closed_keeps (J : Run → Prop) : Closed fun _ x => Keeps J x where
  pure _ := keeps_pure
  bind hx hf := by
    constructor
    · intro s s' b hs run
      obtain ⟨a, s₁, first, second⟩ := run_bind_ok.mp run
      have h := hx.ok hs first
      exact ((hf a s s₁ first).ok h.2 second).imp_left h.1.trans
    · intro s s' e hs run
      rcases run_bind_error.mp run with first | ⟨a, s₁, first, second⟩
      · exact hx.error hs first
      · have h := hx.ok hs first
        exact ((hf a s s₁ first).error h.2 second).imp_left h.1.trans

/-- A sort of relation between lookups that relates two steps if it relates the first ones and
the second ones. Of the second ones this need be known only as they follow the first of the left
side. -/
structure Paired (P : (α : Type) → Lookup α → Lookup α → Prop) : Prop where
  pure : ∀ {α : Type} (a : α), P α (pure a) (pure a)
  bind : ∀ {α β : Type} {x y : Lookup α} {f g : α → Lookup β}, P α x y →
    (∀ a s s', x.run s = .ok a s' → P β (f a) (g a)) → P β (x >>= f) (y >>= g)

/-- A property is a relation that does not look at the right side. -/
theorem Closed.paired {P : (α : Type) → Lookup α → Prop} (closed : Closed P) :
    Paired fun α x _ => P α x :=
  ⟨closed.pure, closed.bind⟩

section Paired

variable {P : (α : Type) → Lookup α → Lookup α → Prop} {α β : Type} (paired : Paired P)
include paired

theorem Paired.ofExcept {r : Except PlanError α}
    (refused : ∀ e, r = .error e → P α (throw e) (throw e)) :
    P α (ofExcept r) (ofExcept r) := by
  cases r with
  | ok a => exact paired.pure a
  | error e => exact refused e rfl

theorem Paired.refuse {refused : Bool} {e : PlanError}
    (h : refused = true → P Unit (throw e) (throw e)) :
    P Unit (refuse refused e) (refuse refused e) := by
  cases refused with
  | false => exact paired.pure ()
  | true => exact h rfl

theorem Paired.foldlM_from {f g : β → α → Lookup β} (inv : List α → β → Prop) :
    ∀ (done rest : List α) {b : β},
      (∀ before a after b, done ++ rest = before ++ a :: after → inv before b →
        P β (f b a) (g b a)) →
      (∀ before a b b' s s', a ∈ rest → inv before b → (f b a).run s = .ok b' s' →
        inv (before ++ [a]) b') →
      inv done b → P β (rest.foldlM f b) (rest.foldlM g b)
  | _, [], b, _, _, _ => paired.pure b
  | done, a :: rest, b, step, keeps, start => by
    rw [List.foldlM_cons, List.foldlM_cons]
    refine paired.bind (step done a rest b rfl start) fun b' s s' run => ?_
    have next := keeps done a b b' s s' List.mem_cons_self start run
    refine Paired.foldlM_from inv (done ++ [a]) rest (fun before a' after c split => ?_)
      (fun before a' c c' s s' ha => keeps before a' c c' s s' (List.mem_cons_of_mem _ ha)) next
    exact step before a' after c (by rw [← split, List.append_assoc, List.singleton_append])

/-- Folds are related as their steps are, given what holds of the elements before. -/
theorem Paired.foldlM {f g : β → α → Lookup β} {as : List α} {b : β} (inv : List α → β → Prop)
    (step : ∀ before a after b, as = before ++ a :: after → inv before b → P β (f b a) (g b a))
    (keeps : ∀ before a b b' s s', a ∈ as → inv before b → (f b a).run s = .ok b' s' →
      inv (before ++ [a]) b')
    (start : inv [] b) : P β (as.foldlM f b) (as.foldlM g b) :=
  paired.foldlM_from inv [] as step keeps start

/-- Folds are related if all their steps are. -/
theorem Paired.foldlM_of_mem {f g : β → α → Lookup β} {as : List α}
    (step : ∀ b, ∀ a ∈ as, P β (f b a) (g b a)) (b : β) :
    P β (as.foldlM f b) (as.foldlM g b) := by
  refine paired.foldlM (fun _ _ => True) (fun before a after b split _ => ?_)
    (fun _ _ _ _ _ _ _ _ _ => trivial) trivial
  apply step b a
  rw [split]
  exact List.mem_append_right _ List.mem_cons_self

end Paired

end Lookup

open Lookup

/-- The unit at a vantage point, asking somebody else. -/
def Vantage.asking (v : Vantage) (backend : Backend) : Vantage := { v with backend }

@[simp] theorem Vantage.caller_asking (v : Vantage) (backend : Backend) :
    (v.asking backend).caller = v.caller := rfl

variable {v : Vantage} {t : Topology} {b : Backend}
  {P : (α : Type) → Lookup α → Lookup α → Prop}

/-! ## Peerings -/

namespace Topology

variable {accounts : Registry} {scope : Scope} {pathPrefix : String} {e : PlanError}

theorem requireVpc_error {name : String} (h : t.requireVpc name scope = .error e) :
    e.OfTopology := by
  unfold requireVpc at h
  split at h
  · exact nomatch h
  · cases h
    exact .misconfigured

theorem peeringEnd_error {vpc : Vpc} {account : String}
    (h : peeringEnd accounts scope vpc account = .error e) : e.OfTopology := by
  unfold peeringEnd at h
  split at h
  · exact nomatch h
  · cases h
    exact .misconfigured

/-- Connections cannot be made only for a fault of the topology. -/
theorem connectionsOf_error (h : t.connectionsOf accounts scope pathPrefix = .error e) :
    e.OfTopology := by
  unfold connectionsOf at h
  cases made : t.connections accounts scope pathPrefix with
  | ok cs => simp [made, Except.map] at h
  | error e' =>
    simp only [made, Except.map, Except.error.injEq] at h
    subst h
    obtain ⟨p, -, failed⟩ := List.mem_flatMap.mp (collectOk_eq_error made)
    unfold peeringResults at failed
    split at failed
    · split at failed
      · next a b _ _ =>
        obtain ⟨account, -, ofAccount⟩ := List.mem_flatMap.mp failed
        split at ofAccount
        · next unknown =>
          cases List.mem_singleton.mp ofAccount
          exact peeringEnd_error unknown
        · obtain ⟨other, -, ofPair⟩ := List.mem_map.mp ofAccount
          cases far : peeringEnd accounts scope b other with
          | ok end_ => simp [far, Except.map] at ofPair
          | error e'' =>
            simp only [far, Except.map, Except.error.injEq] at ofPair
            exact ofPair ▸ peeringEnd_error far
      · next undefined =>
        cases List.mem_singleton.mp failed
        exact requireVpc_error undefined
      · next undefined =>
        cases List.mem_singleton.mp failed
        exact requireVpc_error undefined
    · cases List.mem_singleton.mp failed
      exact .misconfigured

end Topology

namespace Vantage

/-- Note the key of a route, and say whether it is new. -/
def noteRoute (key : String) : Lookup Bool := do
  let s ← get
  if s.plannedRoutes.contains key then pure false
  else
    set { s with plannedRoutes := s.plannedRoutes.add key }
    pure true

theorem noteRoute_run (key : String) (s : Run) :
    (noteRoute key).run s =
      if s.plannedRoutes.contains key then .ok false s
      else .ok true { s with plannedRoutes := s.plannedRoutes.add key } := by
  show (if s.plannedRoutes.contains key then (pure false : Lookup Bool) else _).run s = _
  split
  · rfl
  · rfl

/-- A route is planned if its key is new. -/
theorem planRoute_eq (v : Vantage) (t : Topology) (c : Connection) (side : PeeringSide)
    (table : String) (r : VpcRoute) :
    v.planRoute t c side table r = (do
      let key := Key.route c.key (c.endOn side).vpc table r.name
      if ← noteRoute key then
        let tableId ← v.learn (.vpcRouteTable (c.endOn side).vpc table) (c.endOn side).scope
        let destination ← v.destination t r (c.endOn side) (c.endOpposite side)
        pure (v.routeOn c side key table tableId destination)
      else pure {}) := by
  unfold planRoute noteRoute
  simp only [bind_assoc]
  refine congrArg (get >>= ·) (funext fun s => ?_)
  split
  · simp
  · simp

/-- The routes of a side of a connection, however far the connection is planned. -/
def sideRoutes (v : Vantage) (t : Topology) (side : PeeringSide) (c : Connection) :
    Lookup RouteBatch := do
  let vpc ← Lookup.ofExcept (t.requireVpc (c.endOn side).vpc v.caller)
  v.planRoutes t c side (vpc.routesOver c.name)

/-- A side is planned with its routes, unless it is done. -/
theorem planSide_eq (v : Vantage) (t : Topology) (side : PeeringSide) (c : Connection) :
    v.planSide t side c =
      if c.stage.isDone side then pure (c, {})
      else (do
        let batch ← v.sideRoutes t side c
        pure ({ c with stage := c.stage.after side }, batch)) := by
  unfold planSide sideRoutes
  split
  · rfl
  · rw [bind_assoc]

/-- What planning a side has come to: nothing if it was done, and its routes otherwise. -/
theorem planSide_ok {side : PeeringSide} {c : Connection} {r : Connection × RouteBatch}
    {s s' : Run} (run : (v.planSide t side c).run s = .ok r s') :
    c.stage.isDone side = true ∧ r = (c, {}) ∧ s' = s ∨
      c.stage.isDone side = false ∧ ∃ batch, (v.sideRoutes t side c).run s = .ok batch s' ∧
        r = ({ c with stage := c.stage.after side }, batch) := by
  rw [planSide_eq] at run
  cases done : c.stage.isDone side with
  | true =>
    rw [done, if_pos rfl] at run
    obtain ⟨rfl, rfl⟩ := run_pure_ok.mp run
    exact .inl ⟨rfl, rfl, rfl⟩
  | false =>
    rw [done, if_neg Bool.false_ne_true] at run
    obtain ⟨batch, s₁, routed, last⟩ := run_bind_ok.mp run
    obtain ⟨rfl, rfl⟩ := run_pure_ok.mp last
    exact .inr ⟨rfl, batch, routed, rfl⟩

end Vantage

section Peerings

variable (paired : Paired P)
  (noted : ∀ key, P Bool (Vantage.noteRoute key) (Vantage.noteRoute key))
  (refused : ∀ {α : Type} (e : PlanError), e.OfTopology → P α (throw e) (throw e))

namespace Vantage

include paired refused

theorem destination_paired (r : VpcRoute) {own peer : PeeringEnd}
    (near : ∀ p, p.kind.shareable = false → p.ofGateway = false →
      P String (v.learn p own.scope) ((v.asking b).learn p own.scope))
    (far : ∀ p, p.kind.shareable = false → p.ofGateway = false →
      P String (v.learn p peer.scope) ((v.asking b).learn p peer.scope)) :
    P Destination (v.destination t r own peer) ((v.asking b).destination t r own peer) := by
  unfold destination
  cases r.destinationSpec with
  | cidr block => exact paired.pure _
  | ipv6Cidr block => exact paired.pure _
  | prefixList name =>
    dsimp only
    split
    · exact paired.bind (near _ rfl rfl) fun _ _ _ _ => paired.pure _
    · exact refused _ .misconfigured
  | peerPrimaryCidr =>
    refine paired.bind (paired.ofExcept fun e h => refused e (Topology.requireVpc_error h))
      fun vpc _ _ _ => ?_
    cases vpc.cidrs with
    | cons block _ => exact paired.pure _
    | nil => exact paired.bind (far _ rfl rfl) fun _ _ _ _ => paired.pure _

variable {c : Connection} (ends : ∀ side p, p.kind.shareable = false → p.ofGateway = false →
  P String (v.learn p (c.endOn side).scope) ((v.asking b).learn p (c.endOn side).scope))
include ends

theorem planRoute_paired (side : PeeringSide) (table : String) (r : VpcRoute)
    (new : P Bool (noteRoute (Key.route c.key (c.endOn side).vpc table r.name))
      (noteRoute (Key.route c.key (c.endOn side).vpc table r.name))) :
    P RouteBatch (v.planRoute t c side table r) ((v.asking b).planRoute t c side table r) := by
  have far : ∀ p, p.kind.shareable = false → p.ofGateway = false →
      P String (v.learn p (c.endOpposite side).scope)
        ((v.asking b).learn p (c.endOpposite side).scope) := by
    cases side with
    | requester => exact ends .accepter
    | accepter => exact ends .requester
  rw [planRoute_eq v, planRoute_eq (v.asking b)]
  refine paired.bind new fun new _ _ _ => ?_
  cases new with
  | false => exact paired.pure _
  | true =>
    exact paired.bind (ends side _ rfl rfl) fun _ _ _ _ =>
      paired.bind (destination_paired paired refused r (ends side) far) fun _ _ _ _ =>
        paired.pure _

theorem planRoutes_paired (side : PeeringSide) (rs : List (String × VpcRoute))
    (new : ∀ r ∈ rs, P Bool (noteRoute (Key.route c.key (c.endOn side).vpc r.1 r.2.name))
      (noteRoute (Key.route c.key (c.endOn side).vpc r.1 r.2.name))) :
    P RouteBatch (v.planRoutes t c side rs) ((v.asking b).planRoutes t c side rs) := by
  induction rs with
  | nil => exact paired.pure _
  | cons r rest ih =>
    obtain ⟨first, others⟩ := List.forall_mem_cons.mp new
    exact paired.bind (planRoute_paired paired refused ends side r.1 r.2 first)
      fun _ _ _ _ => paired.bind (ih others) fun _ _ _ _ => paired.pure _

/-- Planning the routes of a side notes their keys, and learns values of the ends. -/
theorem sideRoutes_paired (side : PeeringSide)
    (new : ∀ vpc, t.requireVpc (c.endOn side).vpc v.caller = .ok vpc →
      ∀ r ∈ vpc.routesOver c.name,
        P Bool (noteRoute (Key.route c.key (c.endOn side).vpc r.1 r.2.name))
          (noteRoute (Key.route c.key (c.endOn side).vpc r.1 r.2.name))) :
    P RouteBatch (v.sideRoutes t side c) ((v.asking b).sideRoutes t side c) :=
  paired.bind (paired.ofExcept fun e h => refused e (Topology.requireVpc_error h))
    fun vpc _ _ found => planRoutes_paired paired refused ends side _
      (new vpc (run_ofExcept_ok.mp found).1)

include noted

theorem planSide_paired (side : PeeringSide) :
    P (Connection × RouteBatch) (v.planSide t side c) ((v.asking b).planSide t side c) := by
  rw [planSide_eq v, planSide_eq (v.asking b)]
  cases c.stage.isDone side with
  | true => exact paired.pure _
  | false =>
    exact paired.bind (sideRoutes_paired paired refused ends side fun _ _ _ _ => noted _)
      fun _ _ _ _ => paired.pure _

end Vantage

namespace PeeringPlan

include paired in
theorem forEach_paired {α : Type} {step step' : Connection → Lookup α} {cs : List Connection}
    (h : ∀ c ∈ cs, P α (step c) (step' c)) :
    P (List α) (forEach step cs) (forEach step' cs) := by
  induction cs with
  | nil => exact paired.pure _
  | cons c rest ih =>
    obtain ⟨first, others⟩ := List.forall_mem_cons.mp h
    exact paired.bind first fun _ _ _ _ => paired.bind (ih others) fun _ _ _ _ => paired.pure _

/-- What comes of a step for every connection comes of one of them. -/
theorem run_forEach_ok {α : Type} {step : Connection → Lookup α} {s' : Run} :
    ∀ {cs : List Connection} {s : Run} {as : List α}, (forEach step cs).run s = .ok as s' →
      ∀ a ∈ as, ∃ c ∈ cs, ∃ s₁ s₂, (step c).run s₁ = .ok a s₂
  | [], _, _, run, a, ha => by
    obtain ⟨rfl, -⟩ := run_pure_ok.mp run
    exact nomatch ha
  | c :: rest, s, _, run, a, ha => by
    obtain ⟨b, s₁, one, run⟩ := run_bind_ok.mp run
    obtain ⟨bs, s₂, others, last⟩ := run_bind_ok.mp run
    obtain ⟨rfl, rfl⟩ := run_pure_ok.mp last
    rcases List.mem_cons.mp ha with rfl | later
    · exact ⟨c, List.mem_cons_self, s, s₁, one⟩
    · obtain ⟨c', hc', found⟩ := run_forEach_ok others a later
      exact ⟨c', List.mem_cons_of_mem _ hc', found⟩

section Ends

variable {s s' : Run}

/-- Looking up the VPCs leaves the ends as they are. -/
theorem endOn_of_resolveVpcs {c c' : Connection} (run : (resolveVpcs v c).run s = .ok c' s')
    (side : PeeringSide) : c'.endOn side = c.endOn side := by
  obtain ⟨requester, s₁, -, run⟩ := run_bind_ok.mp run
  obtain ⟨accepter, s₂, -, last⟩ := run_bind_ok.mp run
  obtain ⟨rfl, -⟩ := run_pure_ok.mp last
  cases side <;> rfl

/-- Planning the routes of a side leaves the ends as they are. -/
theorem endOn_of_planSide {c : Connection} {planned : PeeringSide} {r : Connection × RouteBatch}
    (run : (v.planSide t planned c).run s = .ok r s') (side : PeeringSide) :
    r.1.endOn side = c.endOn side := by
  obtain ⟨-, rfl, -⟩ | ⟨-, batch, -, rfl⟩ := Vantage.planSide_ok run
  · rfl
  · cases side <;> rfl

end Ends

include paired noted refused

/-- The connections of either side have the ends of those before. -/
theorem planSides_paired {cs : List Connection}
    (ends : ∀ c ∈ cs, ∀ side p, p.kind.shareable = false → p.ofGateway = false →
      P String (v.learn p (c.endOn side).scope)
        ((v.asking b).learn p (c.endOn side).scope)) (side : PeeringSide) :
    P (List Connection × RouteBatch) (planSides v t side cs)
      (planSides (v.asking b) t side cs) :=
  paired.bind (forEach_paired paired fun c hc =>
      Vantage.planSide_paired paired noted refused (ends c hc) side)
    fun _ _ _ _ => paired.pure _

/-- Planning the peerings notes routes, and learns values of the ends of the unit's connections
that are neither shared nor of gateways. -/
theorem build_paired
    (learned : ∀ cs, t.connectionsOf v.accounts v.caller v.pathPrefix = .ok cs → ∀ c ∈ cs,
      ∀ side p, p.kind.shareable = false → p.ofGateway = false →
        P String (v.learn p (c.endOn side).scope)
          ((v.asking b).learn p (c.endOn side).scope)) :
    P PeeringPlan (build v t) (build (v.asking b) t) := by
  refine paired.bind (paired.ofExcept fun e h => refused e (Topology.connectionsOf_error h))
    fun cs _ _ made => ?_
  have ends := learned cs (run_ofExcept_ok.mp made).1
  refine paired.bind (forEach_paired paired fun c hc => ?_) fun cs₁ _ _ resolved => ?_
  · exact paired.bind (ends c hc .requester _ rfl rfl) fun _ _ _ _ =>
      paired.bind (ends c hc .accepter _ rfl rfl) fun _ _ _ _ => paired.pure _
  have ends₁ : ∀ c ∈ cs₁, ∀ side p, p.kind.shareable = false → p.ofGateway = false →
      P String (v.learn p (c.endOn side).scope)
        ((v.asking b).learn p (c.endOn side).scope) := by
    intro c hc side
    obtain ⟨c', hc', _, _, one⟩ := run_forEach_ok resolved c hc
    rw [endOn_of_resolveVpcs one]
    exact ends c' hc' side
  refine paired.bind (planSides_paired paired noted refused ends₁ .requester)
    fun (cs₂, _) _ _ planned => ?_
  have ends₂ : ∀ c ∈ cs₂, ∀ side p, p.kind.shareable = false → p.ofGateway = false →
      P String (v.learn p (c.endOn side).scope)
        ((v.asking b).learn p (c.endOn side).scope) := by
    intro c hc side
    obtain ⟨results, _, each, last⟩ := run_bind_ok.mp planned
    cases (run_pure_ok.mp last).1
    obtain ⟨r, hr, rfl⟩ := List.mem_map.mp hc
    obtain ⟨c', hc', _, _, one⟩ := run_forEach_ok each r hr
    rw [endOn_of_planSide one]
    exact ends₁ c' hc' side
  exact paired.bind (planSides_paired paired noted refused ends₂ .accepter)
    fun _ _ _ _ => paired.pure _

omit paired noted refused

/-- Planning the peerings learns values that are not shared, and notes routes. -/
theorem build_closed {P : (α : Type) → Lookup α → Prop} (closed : Closed P)
    (learned : ∀ p owner, p.kind.shareable = false → P String (v.learn p owner))
    (noted : ∀ key, P Bool (Vantage.noteRoute key))
    (refused : ∀ {α : Type} (e : PlanError), e.OfTopology → P α (throw e)) :
    P PeeringPlan (build v t) :=
  build_paired (b := v.backend) closed.paired noted refused
    fun _ _ _ _ _ p unshared _ => learned p _ unshared

end PeeringPlan

end Peerings

/-! ## Associations of rules -/

namespace RuleAssociation

theorem requireRule_error {scope : Scope} {vpc : Vpc} {name : String} {e : PlanError}
    (h : requireRule t scope vpc name = .error e) : e.OfTopology := by
  unfold requireRule at h
  split at h
  · cases h
    exact .misconfigured
  · split at h
    · exact nomatch h
    · cases h
      exact .misconfigured

/-- A rule that a VPC may be associated with is defined, under the name that it was looked up
by. -/
theorem requireRule_ok {vpc : Vpc} {name : String} {scope : Scope} {rule : ResolverRule}
    (h : requireRule t scope vpc name = .ok rule) :
    rule ∈ t.network.resolverRules ∧ rule.name = name := by
  unfold requireRule at h
  split at h
  · exact nomatch h
  · next found =>
    split at h
    · cases h
      exact Topology.resolverRule?_some found
    · exact nomatch h

section Walk

variable (paired : Paired P)
  (refused : ∀ {α : Type} (e : PlanError), e.OfTopology → P α (throw e) (throw e))
include paired refused

theorem planRules_paired {vpc : Vpc} (vpcId : String) {names : List String}
    (rules : ∀ rule ∈ t.network.resolverRules, rule.name ∈ names →
      P String (v.learn (.resolverRule rule.name) ⟨rule.account, rule.region⟩)
        ((v.asking b).learn (.resolverRule rule.name) ⟨rule.account, rule.region⟩)) :
    P (List RuleAssociation) (planRules v t vpc vpcId names)
      (planRules (v.asking b) t vpc vpcId names) := by
  induction names with
  | nil => exact paired.pure _
  | cons name rest ih =>
    have one : P RuleAssociation (plan v t vpc vpcId name)
        (plan (v.asking b) t vpc vpcId name) := by
      refine paired.bind (paired.ofExcept fun e h => refused e (requireRule_error h))
        fun rule _ _ required => ?_
      have found := (run_ofExcept_ok.mp required).1
      exact paired.bind
        (rules rule (requireRule_ok found).1 ((requireRule_ok found).2 ▸ List.mem_cons_self))
        fun _ _ _ _ => paired.pure _
    exact paired.bind one fun _ _ _ _ =>
      paired.bind (ih fun rule defined listed => rules rule defined (List.mem_cons_of_mem _ listed))
        fun _ _ _ _ => paired.pure _

/-- Associating the rules learns the ids of the unit's VPCs and of the rules that they list. -/
theorem build_paired
    (rules : ∀ vpc ∈ t.network.vpcs, concerns v vpc = true → ∀ rule ∈ t.network.resolverRules,
      rule.name ∈ vpc.resolverRules →
        P String (v.learn (.resolverRule rule.name) ⟨rule.account, rule.region⟩)
          ((v.asking b).learn (.resolverRule rule.name) ⟨rule.account, rule.region⟩))
    (vpcs : ∀ name, P String (v.learn (.vpc name) v.caller)
      ((v.asking b).learn (.vpc name) v.caller)) :
    P (List RuleAssociation) (build v t) (build (v.asking b) t) := by
  have each : ∀ vs : List Vpc, (∀ vpc ∈ vs, vpc ∈ t.network.vpcs ∧ concerns v vpc = true) →
      P (List RuleAssociation) (planVpcs v t vs) (planVpcs (v.asking b) t vs) := by
    intro vs own
    induction vs with
    | nil => exact paired.pure _
    | cons vpc rest ih =>
      obtain ⟨⟨defined, concerned⟩, others⟩ := List.forall_mem_cons.mp own
      exact paired.bind (vpcs vpc.name) fun vpcId _ _ _ =>
        paired.bind (planRules_paired paired refused vpcId (rules vpc defined concerned))
          fun _ _ _ _ => paired.bind (ih others) fun _ _ _ _ => paired.pure _
  exact each _ fun vpc hvpc => List.mem_filter.mp hvpc

end Walk

/-- Associating the rules learns the ids of rules and of the unit's VPCs. -/
theorem build_closed {P : (α : Type) → Lookup α → Prop} (closed : Closed P)
    (rules : ∀ rule ∈ t.network.resolverRules,
      P String (v.learn (.resolverRule rule.name) ⟨rule.account, rule.region⟩))
    (vpcs : ∀ name, P String (v.learn (.vpc name) v.caller))
    (refused : ∀ {α : Type} (e : PlanError), e.OfTopology → P α (throw e)) :
    P (List RuleAssociation) (build v t) :=
  build_paired (b := v.backend) closed.paired refused
    (fun _ _ _ rule defined _ => rules rule defined) vpcs

end RuleAssociation

/-! ## Maps -/

namespace Topology

variable {accounts : Registry} {scope : Scope} {e : PlanError}

theorem requireGateway_bind_error {α : Type} {name account : String}
    {f : Gateway → Except PlanError α}
    (h : (t.requireGateway name account scope >>= f) = .error e) :
    e.OfTopology ∨ ∃ g, f g = .error e := by
  unfold requireGateway at h
  cases found : t.gateway? name account with
  | none =>
    rw [found] at h
    cases h
    exact .inl .misconfigured
  | some g =>
    rw [found] at h
    exact .inr ⟨g, h⟩

/-- Attachments are not described only for a fault of the topology. -/
theorem attachments_error (h : t.attachments accounts scope = .error e) : e.OfTopology := by
  cases workedOut_of_mem (collectOk_eq_error h) with
  | vpc _ _ _ made =>
    rcases requireGateway_bind_error made with fault | ⟨g, h⟩
    · exact fault
    · split at h
      · exact nomatch h
      · cases h
        exact .misconfigured
  | vpn _ _ made =>
    rcases requireGateway_bind_error made with fault | ⟨g, h⟩
    · exact fault
    · exact nomatch h
  | directConnect _ _ made =>
    rcases requireGateway_bind_error made with fault | ⟨g, h⟩
    · exact fault
    · exact nomatch h
  | peering _ _ made =>
    rcases requireGateway_bind_error made with fault | ⟨g, h⟩
    · exact fault
    · exact nomatch h

end Topology

namespace UnitMap

variable {m : UnitMap} {ds : List Attachment} {scope : Scope}

/-- The map has the ids of the unit's gateways. -/
def HasOwn (t : Topology) (scope : Scope) (m : UnitMap) : Prop :=
  ∀ g ∈ ownGateways t scope, (m.gatewayId? g.name g.account).isSome = true

/-- The gateway of an attachment that is described is found, in the region of the
attachment. -/
theorem gateway?_of_described {accounts : Registry} {a : Attachment}
    (described : t.attachments accounts scope = .ok ds) (listed : a ∈ ds) :
    ∃ g, t.gateway? a.gateway a.gatewayAccount = some g ∧ g.region = a.region := by
  cases Topology.workedOut_of_described described listed with
  | vpc _ _ _ made =>
    obtain ⟨g, found, h⟩ := Topology.requireGateway_bind_ok made
    split at h
    · cases h
      exact ⟨g, Topology.gateway?_self found, rfl⟩
    · exact nomatch h
  | vpn _ _ made =>
    obtain ⟨g, found, h⟩ := Topology.requireGateway_bind_ok made
    cases h
    exact ⟨g, Topology.gateway?_self found, rfl⟩
  | directConnect _ _ made =>
    obtain ⟨g, found, h⟩ := Topology.requireGateway_bind_ok made
    cases h
    exact ⟨g, Topology.gateway?_self found, rfl⟩
  | peering _ _ made =>
    obtain ⟨g, found, h⟩ := Topology.requireGateway_bind_ok made
    cases h
    exact ⟨g, Topology.gateway?_self found, rfl⟩

/-- An attachment that is described is on a gateway that is defined, in its
region. -/
theorem gateway_of_described {accounts : Registry} {a : Attachment}
    (described : t.attachments accounts scope = .ok ds) (listed : a ∈ ds) :
    ∃ g ∈ t.network.gateways, g.name = a.gateway ∧ g.account = a.gatewayAccount ∧
      g.region = a.region := by
  obtain ⟨g, found, region⟩ := gateway?_of_described described listed
  obtain ⟨defined, name, account⟩ := Topology.gateway?_some found
  exact ⟨g, defined, name, account, region⟩

/-- Where the ids of the unit's gateways are known, that of every gateway is which
an attachment of another owner needs. -/
theorem HasOwn.of_foreign {accounts : Registry} (own : HasOwn t scope m)
    (described : t.attachments accounts scope = .ok ds) {a : Attachment} (listed : a ∈ ds)
    (relevant : concerns scope a = true) (foreign : a.owner ≠ scope) :
    (m.gatewayId? a.gateway a.gatewayAccount).isSome = true := by
  obtain ⟨g, defined, name, account, region⟩ := gateway_of_described described listed
  have ours : a.gatewayAccount = scope.account := by
    simp only [concerns, ownsGateway, Bool.and_eq_true, Bool.or_eq_true, beq_iff_eq] at relevant
    rcases relevant.2 with ours | mine
    · exact ours
    · exact absurd mine foreign
  have mine : g ∈ ownGateways t scope :=
    mem_ownGateways.mpr ⟨defined, account.trans ours, region.trans (region_of_concerns relevant)⟩
  rw [← name, ← account]
  exact own g mine

/-- The map holds some attachments, and the unit's gateways among others. -/
def HoldsOwn (v : Vantage) (t : Topology) (as : List Attachment) (m : UnitMap) : Prop :=
  ∃ gateways tables, m.Holds v.caller gateways tables as ∧
    ∀ g ∈ ownGateways t v.caller, Key.gateway g.name g.account ∈ gateways

theorem HoldsOwn.hasOwn {as : List Attachment} (h : HoldsOwn v t as m) :
    HasOwn t v.caller m := by
  obtain ⟨gateways, tables, held, own⟩ := h
  intro g hg
  exact held.gateways.mpr (own g hg)

theorem HoldsOwn.start {s s' : Run}
    (run : ((ownGateways t v.caller).foldlM (resolveGateway v) { scope := v.caller }).run s =
      .ok m s') : HoldsOwn v t [] m :=
  ⟨_, _, ownGateways_holds run, fun _ hg => List.mem_map.mpr ⟨_, hg, rfl⟩⟩

theorem HoldsOwn.step {as : List Attachment} (h : HoldsOwn v t as m) {a : Attachment}
    {m' : UnitMap} {s s' : Run} (run : (resolveAttachment v t m a).run s = .ok m' s') :
    HoldsOwn v t (as ++ [a]) m' := by
  obtain ⟨gateways, tables, held, own⟩ := h
  exact ⟨_, _, resolveAttachment_holds held run,
    fun g hg => List.mem_append_left _ (own g hg)⟩

/-- The id of a gateway is known when an attachment of another owner is resolved. -/
theorem HasOwn.knows {accounts : Registry} (own : HasOwn t scope m)
    (described : t.attachments accounts scope = .ok ds) {a : Attachment} (listed : a ∈ ds)
    (relevant : concerns scope a = true) :
    ((m.gatewayId? a.gateway a.gatewayAccount).isNone && !(a.owner == scope)) = false := by
  by_cases mine : a.owner = scope
  · simp [mine]
  · obtain ⟨id, known⟩ :=
      Option.isSome_iff_exists.mp (own.of_foreign described listed relevant mine)
    simp [known]

/-- What an attachment of a unit needs of its gateway: the id, and those of the route tables
that it names on a foreign one. -/
inductive NeedsOfGateway (t : Topology) (scope : Scope) (a : Attachment) : Published → Prop
  | gateway : NeedsOfGateway t scope a (.transitGateway a.gateway)
  | table {table : String} (needed : table ∈ foreignTables t scope a) :
      NeedsOfGateway t scope a (.transitGatewayRouteTable a.gateway table)

theorem NeedsOfGateway.ofGateway {a : Attachment} {p : Published}
    (h : NeedsOfGateway t scope a p) : p.ofGateway = true := by
  cases h <;> rfl

section Walk

variable (paired : Paired P)
  (learned : ∀ p, P String (v.learn p v.caller) ((v.asking b).learn p v.caller))
  (gateways : ∀ ds, t.attachments v.accounts v.caller = .ok ds → ∀ a ∈ ds, a.owner = v.caller →
    concerns v.caller a = true → ∀ p, NeedsOfGateway t v.caller a p →
      P String (v.learn p a.gatewayScope) ((v.asking b).learn p a.gatewayScope))
  (attached : ∀ ds, t.attachments v.accounts v.caller = .ok ds → ∀ a ∈ ds,
    concerns v.caller a = true → ∀ gatewayId,
      P String (v.resolveAttachment a.kind a.child a.name gatewayId a.owner)
        ((v.asking b).resolveAttachment a.kind a.child a.name gatewayId a.owner))
  (refused : ∀ {α : Type} (e : PlanError), e.OfTopology → P α (throw e) (throw e))
include paired

include learned in
theorem resolveGateway_paired (m : UnitMap) (g : Gateway) :
    P UnitMap (resolveGateway v m g) (resolveGateway (v.asking b) m g) :=
  paired.bind (learned _) fun _ _ _ _ =>
    paired.foldlM_of_mem (fun _ _ _ =>
      paired.bind (learned _) fun _ _ _ _ => paired.pure _) _

theorem resolveRemoteRouteTables_paired (m : UnitMap) {a : Attachment} (own : a.owner = v.caller)
    (foreign : ownsGateway v.caller a = false)
    (tables : ∀ table ∈ foreignTables t v.caller a,
      P String (v.learn (.transitGatewayRouteTable a.gateway table) a.gatewayScope)
        ((v.asking b).learn (.transitGatewayRouteTable a.gateway table) a.gatewayScope)) :
    P UnitMap (resolveRemoteRouteTables v t m a)
      (resolveRemoteRouteTables (v.asking b) t m a) := by
  unfold resolveRemoteRouteTables
  cases found : t.gateway? a.gateway a.gatewayAccount with
  | none => exact paired.pure m
  | some g =>
    refine paired.foldlM_of_mem (fun m table named => ?_) m
    unfold resolveRemoteRouteTable
    cases left : !g.hasRouteTable table || m.hasRouteTable a.region g.name table with
    | true => exact paired.pure m
    | false =>
      have other : a.gatewayAccount ≠ v.caller.account := by simpa [ownsGateway] using foreign
      have defined : g.hasRouteTable table = true := by
        simpa using (Bool.or_eq_false_iff.mp left).1
      rw [(Topology.gateway?_some found).2.1]
      exact paired.bind
        (tables table (mem_foreignTables.mpr ⟨own, other, named, g, found, defined⟩))
        fun _ _ _ _ => paired.pure _

include gateways attached refused

/-- Where the ids of the unit's gateways are known, resolving an attachment
refuses only one whose key is taken. -/
theorem resolveAttachment_paired (own : HasOwn t v.caller m)
    (described : t.attachments v.accounts v.caller = .ok ds) {a : Attachment} (listed : a ∈ ds)
    (relevant : concerns v.caller a = true) :
    P UnitMap (resolveAttachment v t m a) (resolveAttachment (v.asking b) t m a) := by
  rw [resolveAttachment_eq v, resolveAttachment_eq (v.asking b)]
  refine paired.bind (paired.refuse fun _ => refused _ .misconfigured) fun _ _ _ _ =>
    paired.bind ?_ fun m₁ _ _ tables => ?_
  · rw [Vantage.caller_asking]
    split
    · next needed =>
      obtain ⟨mine, foreign⟩ : a.owner = v.caller ∧ ownsGateway v.caller a = false := by
        simpa using needed
      exact resolveRemoteRouteTables_paired paired m mine foreign fun table named =>
        gateways ds described a listed mine relevant _ (.table named)
    · exact paired.pure m
  · have known : ((m₁.gatewayId? a.gateway a.gatewayAccount).isNone &&
        !(a.owner == v.caller)) = false := by
      by_cases mine : a.owner = v.caller
      · simp [mine]
      · have same : m₁ = m := by
          simp only [beq_eq_false_iff_ne.mpr mine, Bool.false_and, Bool.false_eq_true,
            if_false] at tables
          exact (run_pure_ok.mp tables).1.symm
        rw [same]
        exact own.knows described listed relevant
    refine paired.bind (paired.refuse fun unknown => nomatch known.symm.trans unknown)
      fun _ _ _ _ =>
      paired.bind (attached ds described a listed relevant _) fun id _ _ _ => ?_
    cases found : m₁.gatewayId? a.gateway a.gatewayAccount with
    | some gatewayId => exact paired.pure _
    | none =>
      have mine : a.owner = v.caller := by simpa [found] using known
      exact paired.bind (gateways ds described a listed mine relevant _ .gateway)
        fun _ _ _ _ => paired.pure _

include learned

/-- Building a map learns the unit's own values and those of the gateways that its attachments
are on, and resolves the attachments that concern the unit. -/
theorem build_paired : P UnitMap (build v t) (build (v.asking b) t) := by
  refine paired.bind (paired.foldlM_of_mem
    (fun m g _ => resolveGateway_paired paired learned m g) _) fun m _ _ own => ?_
  refine paired.bind (paired.ofExcept fun e h => refused e (Topology.attachments_error h))
    fun ds _ _ h => ?_
  have described := (run_ofExcept_ok.mp h).1
  refine paired.bind (paired.foldlM (HoldsOwn v t) (fun before a after m split held => ?_)
    (fun before a m m' s s' _ held run => held.step run) (.start own)) fun m _ _ _ => ?_
  · have ha : a ∈ ds.filter (concerns v.caller) := by
      rw [split]
      exact List.mem_append_right _ List.mem_cons_self
    obtain ⟨listed, relevant⟩ := List.mem_filter.mp ha
    exact resolveAttachment_paired paired gateways attached refused held.hasOwn described listed
      relevant
  · refine paired.foldlM_of_mem (fun m l _ => ?_) m
    exact paired.bind (learned _) fun _ _ _ _ => paired.pure _

omit paired gateways attached refused learned

/-- Building a map learns the unit's own values and those of gateways, and resolves
attachments. -/
theorem build_closed {P : (α : Type) → Lookup α → Prop} (closed : Closed P)
    (learned : ∀ p owner, owner = v.caller ∨ p.ofGateway = true → P String (v.learn p owner))
    (attached : ∀ ds, t.attachments v.accounts v.caller = .ok ds → ∀ a ∈ ds, ∀ gatewayId,
      P String (v.resolveAttachment a.kind a.child a.name gatewayId a.owner))
    (refused : ∀ {α : Type} (e : PlanError), e.OfTopology → P α (throw e)) :
    P UnitMap (build v t) :=
  build_paired (b := v.backend) closed.paired (fun _ => learned _ _ (.inl rfl))
    (fun _ _ _ _ _ _ _ needed => learned _ _ (.inr needed.ofGateway))
    (fun ds described a listed _ => attached ds described a listed) refused

end Walk

/-! ## What is read off a map -/

variable {e : PlanError} {g : Gateway} {r : StaticRoute}

theorem routeDestination_error (h : m.routeDestination r = .error e) :
    r.destinationCidrBlock = none ∧
      m.prefixLists.contains (r.destinationPrefixList.getD "") = false ∧
      e = .misconfigured (.prefixListNotAtGateway (r.destinationPrefixList.getD "")) m.scope := by
  unfold routeDestination at h
  cases block : r.destinationCidrBlock with
  | some b => simp [block] at h
  | none =>
    cases found : m.prefixLists.get? (r.destinationPrefixList.getD "") with
    | some id => simp [block, found] at h
    | none =>
      simp only [block, found, Except.error.injEq] at h
      exact ⟨rfl, by simp [SortedMap.contains, found], h.symm⟩

/-- A static route has no action if its target is no attachment or several. -/
theorem routeAction_error (h : m.routeAction g r = .error e) :
    ∃ target, r.attachment = some target ∧
      (((m.targets g target).length = 0 ∧
          e = .misconfigured (.noRouteTarget target.kind target.name g.name) m.scope) ∨
        (1 < (m.targets g target).length ∧
          e = .misconfigured (.severalRouteTargets target.kind target.name) m.scope)) := by
  unfold routeAction at h
  cases named : r.attachment with
  | none => simp [named] at h
  | some target =>
    rw [named] at h
    refine ⟨target, rfl, ?_⟩
    match found : m.targets g target with
    | [] =>
      simp only [found, Except.error.injEq] at h
      exact .inl ⟨rfl, h.symm⟩
    | [(key, a)] => simp [found] at h
    | _ :: _ :: _ =>
      simp only [found, Except.error.injEq] at h
      exact .inr ⟨by simp, h.symm⟩

/-- A static route is not planned for want of a destination or of an action. -/
theorem gatewayRoute_error_cases {table tableId : String}
    (h : m.gatewayRoute g table tableId r = .error e) :
    m.routeDestination r = .error e ∨ m.routeAction g r = .error e := by
  unfold gatewayRoute at h
  cases destination : m.routeDestination r with
  | error e' =>
    rw [destination] at h
    exact .inl (congrArg _ (Except.error.inj h))
  | ok d =>
    cases action : m.routeAction g r with
    | error e' =>
      rw [destination, action] at h
      exact .inr (congrArg _ (Except.error.inj h))
    | ok a =>
      rw [destination, action] at h
      exact nomatch h

theorem gatewayRoute_error {table tableId : String}
    (h : m.gatewayRoute g table tableId r = .error e) : e.OfTopology := by
  rcases gatewayRoute_error_cases h with destination | action
  · obtain ⟨-, -, rfl⟩ := routeDestination_error destination
    exact .misconfigured
  · obtain ⟨target, -, ⟨-, rfl⟩ | ⟨-, rfl⟩⟩ := routeAction_error action
    · exact .misconfigured
    · exact .misconfigured

/-- A map that has been built has the ids of the route tables of the unit's gateways. -/
theorem build_hasRouteTable {s s' : Run} (run : (build v t).run s = .ok m s')
    (hg : g ∈ ownGateways t m.scope) {table : GatewayRouteTable} (defined : table ∈ g.routeTables) :
    m.hasRouteTable g.region g.name table.name = true := by
  obtain ⟨ds, -, held⟩ := build_holds run
  rw [held.scope] at hg
  refine held.hasRouteTable.mpr (List.mem_map.mpr ⟨(⟨g.name, g.account⟩, table.name), ?_, ?_⟩)
  · exact List.mem_append_left _
      (List.mem_flatMap.mpr ⟨g, hg, List.mem_map.mpr ⟨table, defined, rfl⟩⟩)
  · rw [(mem_ownGateways.mp hg).2.2]

/-- Static routes are not planned if a table of the unit is not in its map, or for one of the
routes. -/
theorem gatewayRoutes_error_cases (h : m.gatewayRoutes t = .error e) :
    ∃ g ∈ ownGateways t m.scope, ∃ table ∈ g.routeTables,
      (m.hasRouteTable g.region g.name table.name = false ∧
          e = .notFound (Key.routeTable g.name table.name) m.scope) ∨
        ∃ id, ∃ r ∈ table.routes, m.gatewayRoute g table.name id r = .error e := by
  unfold gatewayRoutes at h
  cases collected : collectOk ((ownGateways t m.scope).flatMap fun g =>
      g.routeTables.map (m.tableRoutes g)) with
  | ok routes => simp [collected, Except.map] at h
  | error e' =>
    simp only [collected, Except.map, Except.error.injEq] at h
    subst h
    obtain ⟨g, hg, ofGateway⟩ := List.mem_flatMap.mp (Topology.collectOk_eq_error collected)
    obtain ⟨table, defined, ofTable⟩ := List.mem_map.mp ofGateway
    refine ⟨g, hg, table, defined, ?_⟩
    unfold tableRoutes at ofTable
    cases known : m.routeTableId? g.region g.name table.name with
    | none =>
      rw [known] at ofTable
      exact .inl ⟨by simp [hasRouteTable, known], (Except.error.inj ofTable).symm⟩
    | some id =>
      rw [known] at ofTable
      obtain ⟨r, hr, failed⟩ := List.mem_map.mp (Topology.collectOk_eq_error ofTable)
      exact .inr ⟨id, r, hr, failed⟩

/-- Static routes are not planned only for a fault of the topology. -/
theorem gatewayRoutes_error {s s' : Run} (run : (build v t).run s = .ok m s')
    (h : m.gatewayRoutes t = .error e) : e.OfTopology := by
  obtain ⟨g, hg, table, defined, ⟨absent, -⟩ | ⟨id, r, -, failed⟩⟩ := gatewayRoutes_error_cases h
  · rw [build_hasRouteTable run hg defined] at absent
    exact nomatch absent
  · exact gatewayRoute_error failed

theorem edge_error {kind : EdgeKind} {key table : String} (h : m.edge kind key table = .error e) :
    e.OfTopology := by
  unfold edge at h
  split at h
  · cases h
    exact .misconfigured
  · split at h
    · cases h
      exact .misconfigured
    · exact nomatch h

section Edges

variable {P : PlanError → Prop} {external : EdgeKeys} {kind : EdgeKind}
  (repeated : ∀ key, P (.repeatedEdge key m.scope))
include repeated

/-- An edge cannot be planned only if it is asked for twice, or if one of its ends is not in the
map. -/
theorem planEdge_fails {key table : String} (ends : ∀ e, m.edge kind key table = .error e → P e) :
    FailsOnly P (m.planEdge external kind key table) := by
  unfold planEdge
  dsimp only
  split
  · exact failsOnly_pure
  · refine FailsOnly.bind (fun _ _ _ run => nomatch run) fun requested _ _ _ => ?_
    split
    · exact (failsOnly_throw (repeated _)).bind fun _ _ _ run => nomatch run
    · refine FailsOnly.bind (fun _ _ _ run => nomatch run) fun _ _ _ _ => ?_
      cases made : m.edge kind key table with
      | ok edge => exact failsOnly_pure
      | error e => exact failsOnly_throw (ends e made)

theorem planEdges_fails {key : String} {tables : List String}
    (ends : ∀ table ∈ tables, ∀ e, m.edge kind key table = .error e → P e) :
    FailsOnly P (m.planEdges external kind key tables) := by
  induction tables with
  | nil => exact failsOnly_pure
  | cons table rest ih =>
    obtain ⟨here, there⟩ := List.forall_mem_cons.mp ends
    exact (planEdge_fails repeated here).bind fun _ _ _ _ =>
      (ih there).bind fun _ _ _ _ => failsOnly_pure

theorem planAttachments_fails {entries : List (String × ResolvedAttachment)}
    (ends : ∀ x ∈ entries, ∀ table ∈ x.2.descriptor.tables kind, ∀ e,
      m.edge kind x.1 table = .error e → P e) :
    FailsOnly P (m.planAttachments external kind entries) := by
  induction entries with
  | nil => exact failsOnly_pure
  | cons entry rest ih =>
    obtain ⟨here, there⟩ := List.forall_mem_cons.mp ends
    exact (planEdges_fails repeated here).bind fun _ _ _ _ =>
      (ih there).bind fun _ _ _ _ => failsOnly_pure

end Edges

end UnitMap

/-! ## The whole -/

namespace Plan

/-- The edges of a unit cannot be planned only if one is asked for twice, or if one has an end
that is not in the map. -/
theorem edgesOf_error {m : UnitMap} {P : PlanError → Prop} {e : PlanError}
    (repeated : ∀ key, P (.repeatedEdge key m.scope))
    (ends : ∀ kind, ∀ x ∈ m.owned, ∀ table ∈ x.2.descriptor.tables kind, ∀ e,
      m.edge kind x.1 table = .error e → P e)
    (h : edgesOf m t = .error e) : P e := by
  unfold edgesOf at h
  cases run : (m.planGraph (.ofExternal t.network.external)).run {} with
  | ok edges noted => simp [run] at h
  | error e' noted =>
    simp only [run, Except.error.injEq] at h
    subst h
    have fails : FailsOnly P (m.planGraph (.ofExternal t.network.external)) :=
      (UnitMap.planAttachments_fails repeated (ends _)).bind fun _ _ _ _ =>
        (UnitMap.planAttachments_fails repeated (ends _)).bind fun _ _ _ _ => failsOnly_pure
    exact fails run

theorem requireId_error {accounts : Registry} {account : String} {scope : Scope} {e : PlanError}
    (h : Vantage.requireId accounts account scope = .error e) : e.OfTopology := by
  unfold Vantage.requireId at h
  split at h
  · exact nomatch h
  · cases h
    exact .misconfigured

/-- What relates the requests and the refusals for a fault of the topology relates the plans. -/
theorem build_paired (paired : Paired P)
    (learned : ∀ p, P String (v.learn p v.caller) ((v.asking b).learn p v.caller))
    (gateways : ∀ ds, t.attachments v.accounts v.caller = .ok ds → ∀ a ∈ ds,
      a.owner = v.caller → UnitMap.concerns v.caller a = true →
      ∀ p, UnitMap.NeedsOfGateway t v.caller a p →
        P String (v.learn p a.gatewayScope) ((v.asking b).learn p a.gatewayScope))
    (attached : ∀ ds, t.attachments v.accounts v.caller = .ok ds → ∀ a ∈ ds,
      UnitMap.concerns v.caller a = true → ∀ gatewayId,
        P String (v.resolveAttachment a.kind a.child a.name gatewayId a.owner)
          ((v.asking b).resolveAttachment a.kind a.child a.name gatewayId a.owner))
    (ends : ∀ cs, t.connectionsOf v.accounts v.caller v.pathPrefix = .ok cs → ∀ c ∈ cs,
      ∀ side p, p.kind.shareable = false → p.ofGateway = false →
        P String (v.learn p (c.endOn side).scope)
          ((v.asking b).learn p (c.endOn side).scope))
    (rules : ∀ vpc ∈ t.network.vpcs, RuleAssociation.concerns v vpc = true →
      ∀ rule ∈ t.network.resolverRules, rule.name ∈ vpc.resolverRules →
        P String (v.learn (.resolverRule rule.name) ⟨rule.account, rule.region⟩)
          ((v.asking b).learn (.resolverRule rule.name) ⟨rule.account, rule.region⟩))
    (noted : ∀ key, P Bool (Vantage.noteRoute key) (Vantage.noteRoute key))
    (got : P Run get get)
    (refused : ∀ {α : Type} (e : PlanError), e.OfTopology → P α (throw e) (throw e)) :
    P Plan (build v t) (build (v.asking b) t) := by
  unfold build
  refine paired.bind (paired.ofExcept fun e h => refused e (requireId_error h)) fun _ _ _ _ => ?_
  refine paired.bind (UnitMap.build_paired paired learned gateways attached refused)
    fun m _ _ mapped => ?_
  refine paired.bind (paired.ofExcept fun e h => refused e ?_) fun _ _ _ _ => ?_
  · exact edgesOf_error (fun _ => .repeatedEdge) (fun _ _ _ _ _ _ => UnitMap.edge_error) h
  refine paired.bind (paired.ofExcept fun e h =>
    refused e (UnitMap.gatewayRoutes_error mapped h)) fun _ _ _ _ => ?_
  refine paired.bind (PeeringPlan.build_paired paired noted refused ends) fun _ _ _ _ => ?_
  refine paired.bind (RuleAssociation.build_paired paired refused rules fun _ => learned _)
    fun _ _ _ _ => ?_
  exact paired.bind got fun _ _ _ _ => paired.pure _

/-- What holds of every request and of every refusal for a fault of the topology
holds of the plan. -/
theorem build_closed {P : (α : Type) → Lookup α → Prop} (closed : Closed P)
    (learned : ∀ p owner, P String (v.learn p owner))
    (attached : ∀ kind child name gatewayId owner,
      P String (v.resolveAttachment kind child name gatewayId owner))
    (noted : ∀ key, P Bool (Vantage.noteRoute key)) (got : P Run get)
    (refused : ∀ {α : Type} (e : PlanError), e.OfTopology → P α (throw e)) :
    P Plan (build v t) :=
  build_paired (b := v.backend) closed.paired (fun _ => learned _ _)
    (fun _ _ _ _ _ _ _ _ => learned _ _) (fun _ _ _ _ _ _ => attached ..)
    (fun _ _ _ _ _ _ _ _ => learned _ _) (fun _ _ _ _ _ _ => learned _ _) noted got refused

end Plan

end Interlink
