import Interlink.Backend.Memory
import Interlink.Proofs.Permission
import Interlink.Proofs.Publishing

/-!
# Whose records a plan depends on

A unit asks about its own values, about the owners of what is attached to its gateways,
about the gateways that its own attachments are on, about the ends of the connections that
it requests, and about the rules that its VPCs list. The topology alone says whose scopes
these are: they are the `Neighbour`s of the unit's scope. What is stored in any other scope
cannot be seen in a plan, nor in the error that stands in its place
(`plan_of_neighbourhood`): memories that agree on the neighbours give one run, down to the
questions that are asked.

The proof takes two units that differ in the backend through the stages side by side. They
are in step (`InStep`) as long as every question is about a neighbour, and it is, for the
identity under which the unit asks is the one that belongs to the owner.
-/

namespace Interlink

open Lookup

/-- Two steps, one after the other. -/
theorem Lookup.run_bind {α β : Type} (x : Lookup α) (f : α → Lookup β) (s : Run) :
    (x >>= f).run s =
      match x.run s with
      | .ok a s' => (f a).run s'
      | .error e s' => .error e s' := by
  show EStateM.bind x f s = _
  unfold EStateM.bind EStateM.run
  cases x s <;> rfl

/-! ## Two units in step -/

namespace Vantage

variable {v : Vantage} {b : Backend} {α β : Type}

/-- Two lookups that come to the same, as long as every identity is the one for its key. -/
structure InStep (v : Vantage) (x y : Lookup α) : Prop where
  keeps : Keeps v.Vetted x
  same : ∀ s, v.Vetted s → y.run s = x.run s

theorem inStep_pure (a : α) : v.InStep (pure a) (pure a) := ⟨keeps_pure, fun _ _ => rfl⟩

theorem inStep_throw (e : PlanError) : v.InStep (throw e : Lookup α) (throw e) :=
  ⟨keeps_throw, fun _ _ => rfl⟩

theorem InStep.bind {x y : Lookup α} {f g : α → Lookup β} (first : v.InStep x y)
    (next : ∀ a s s', v.Vetted s → x.run s = .ok a s' → v.InStep (f a) (g a)) :
    v.InStep (x >>= f) (y >>= g) where
  keeps := by
    constructor
    · intro s s'' c hs run
      obtain ⟨a, s', one, two⟩ := run_bind_ok.mp run
      have h := first.keeps.ok hs one
      exact ((next a s s' hs one).keeps.ok h.2 two).imp_left h.1.trans
    · intro s s'' e hs run
      rcases run_bind_error.mp run with one | ⟨a, s', one, two⟩
      · exact first.keeps.error hs one
      · have h := first.keeps.ok hs one
        exact ((next a s s' hs one).keeps.error h.2 two).imp_left h.1.trans
  same := by
    intro s hs
    rw [run_bind, run_bind, first.same s hs]
    cases one : x.run s with
    | error e s' => rfl
    | ok a s' => exact (next a s s' hs one).same s' (first.keeps.ok hs one).2

theorem paired_inStep (v : Vantage) : Paired fun _ x y => v.InStep x y where
  pure := inStep_pure
  bind first next := first.bind fun a s s' _ run => next a s s' run

/-! ## Questions about one owner -/

/-- Another backend answers every question about an owner as the unit's own does. -/
structure AgreesOn (v : Vantage) (b : Backend) (owner : Scope) : Prop where
  published : ∀ past path,
    b past (.localValue owner path) = v.backend past (.localValue owner path)
  stored : ∀ past i path, i.scope = owner →
    b past (.remoteValue i path) = v.backend past (.remoteValue i path)
  shared : ∀ past kind name id, v.accounts.accountId? owner.account = some id →
    owner.region = v.caller.region →
      b past (.share kind name id owner.region) = v.backend past (.share kind name id owner.region)
  attached : ∀ past i gatewayId name, i.scope = owner →
    b past (.attachment i gatewayId name) = v.backend past (.attachment i gatewayId name)

theorem askFor_inStep {path : String} {owner : Scope} {q : Query}
    (alike : ∀ past, b past q = v.backend past q) :
    v.InStep (v.askFor path owner q) ((v.asking b).askFor path owner q) where
  keeps := meets_askFor (fun _ _ hs => hs) (fun _ hs => hs) fun _ _ hs => hs
  same := by
    intro s _
    rw [askFor_run, askFor_run, show (v.asking b).backend = b from rfl, alike]

/-- A question is asked under the identity that belongs to the owner. -/
theorem askUnder_inStep {purpose : RolePurpose} {path : String} {owner : Scope}
    {role : Option String} {q : Identity → Query} (canonical : role = v.roleFor purpose owner)
    (alike : ∀ past i, i.scope = owner → b past (q i) = v.backend past (q i)) :
    v.InStep (v.identity purpose owner role >>= fun i => v.askFor path owner (q i))
      ((v.asking b).identity purpose owner role >>= fun i =>
        (v.asking b).askFor path owner (q i)) := by
  have vetted := identity_vetted (J := v.Vetted) (fun _ hs => hs)
    (fun _ _ _ hs new => hs.enlist new) canonical
  have identity : v.InStep (v.identity purpose owner role)
      ((v.asking b).identity purpose owner role) :=
    ⟨vetted.mono fun _ _ hs => hs.1, fun _ _ => rfl⟩
  refine identity.bind fun i s s' hs run => askFor_inStep fun past => alike past i ?_
  exact (vetted.ok hs run).2.2.scope

variable {owner : Scope} (alike : v.AgreesOn b owner)
include alike

theorem readRemote_inStep {r : Reference} {role : Option String}
    (canonical : role = v.roleFor .parameterShare owner) :
    v.InStep (v.readRemote r owner role) ((v.asking b).readRemote r owner role) :=
  askUnder_inStep canonical fun past i same => alike.stored past i r.path same

theorem readShared_inStep {r : Reference} (share : v.looksInShare r.kind owner = true) :
    v.InStep (v.readShared r owner) ((v.asking b).readShared r owner) := by
  obtain ⟨account, region, -⟩ := looksInShare_iff.mp share
  have member : v.InStep (Lookup.ofExcept (requireId v.accounts owner.account v.caller))
      (Lookup.ofExcept (requireId v.accounts owner.account v.caller)) :=
    ⟨keeps_ofExcept, fun _ _ => rfl⟩
  refine member.bind fun id s s' _ required => ?_
  have found := requireId_ok (run_ofExcept_ok.mp required).1
  refine (askFor_inStep fun past => alike.shared past _ _ id found region).bind
    fun known _ _ _ _ => ?_
  cases known with
  | some id => exact inStep_pure _
  | none => exact readRemote_inStep alike (roleFor_other account _).symm

theorem fetch_inStep (r : Reference) : v.InStep (v.fetch r owner) ((v.asking b).fetch r owner) := by
  rw [fetch_eq v, fetch_eq (v.asking b)]
  show v.InStep _ (if owner = v.caller then _ else if v.looksInShare r.kind owner then _ else _)
  split
  · exact askFor_inStep fun past => alike.published past _
  · split
    · next share => exact readShared_inStep alike share
    · exact readRemote_inStep alike rfl

omit alike in
theorem recalled_inStep {key : RecallKey} {path : String} {x y : Lookup (Option String)}
    (fetched : v.InStep x y) : v.InStep (recalled key path x) (recalled key path y) where
  keeps := (meets_recalled (fun _ hs => hs) (fun _ hs => hs) fetched.keeps (fun _ _ hs => hs)
    fun _ hs => hs).mono fun _ _ hs => hs.1
  same := by
    intro s hs
    rw [recalled_run, recalled_run, fetched.same (s.note key) hs]

theorem learn_inStep (p : Published) : v.InStep (v.learn p owner) ((v.asking b).learn p owner) :=
  recalled_inStep (fetch_inStep alike _)

theorem resolveAttachment_inStep (kind : AttachmentKind) (child name gatewayId : String) :
    v.InStep (v.resolveAttachment kind child name gatewayId owner)
      ((v.asking b).resolveAttachment kind child name gatewayId owner) := by
  unfold resolveAttachment
  rw [caller_asking]
  split
  · exact recalled_inStep (fetch_inStep alike _)
  · exact recalled_inStep
      (askUnder_inStep rfl fun past i same => alike.attached past i gatewayId name same)

omit alike in
theorem noteRoute_inStep (key : String) : v.InStep (noteRoute key) (noteRoute key) :=
  ⟨PeeringPlan.noteRoute_keeps (fun _ _ hs => hs) key, fun _ _ => rfl⟩

end Vantage

/-! ## Neighbours -/

/-- The scopes that the unit of a scope looks to. -/
inductive Topology.Neighbour (t : Topology) (scope : Scope) : Scope → Prop
  | self : Neighbour t scope scope
  /-- The owner of an attachment to a gateway of the account, in the region. -/
  | attached {ds : List Attachment} {a : Attachment}
      (described : t.attachments t.registry scope = .ok ds) (listed : a ∈ ds)
      (region : a.region = scope.region) (account : a.gatewayAccount = scope.account) :
      Neighbour t scope a.owner
  /-- The owner of the gateway that an attachment of the scope is on. -/
  | gateway {ds : List Attachment} {a : Attachment}
      (described : t.attachments t.registry scope = .ok ds) (listed : a ∈ ds)
      (own : a.owner = scope) : Neighbour t scope a.gatewayScope
  /-- The accepter's scope of a connection that the scope requests. -/
  | accepter {cs : List Connection} {c : Connection}
      (made : t.connectionsOf t.registry scope t.settings.pathPrefix = .ok cs) (planned : c ∈ cs) :
      Neighbour t scope c.accepter.scope
  /-- The owner of a rule that a VPC deployed to the scope lists. -/
  | rule {vpc : Vpc} {r : ResolverRule} (defined : vpc ∈ t.network.vpcs)
      (region : vpc.region = scope.region) (deployed : scope.account ∈ t.registry.vpcAccounts vpc)
      (rule : r ∈ t.network.resolverRules) (listed : r.name ∈ vpc.resolverRules) :
      Neighbour t scope ⟨r.account, r.region⟩

namespace Topology

variable {t : Topology} {scope : Scope} {backend b : Backend}

/-- Two backends that answer alike about all neighbours of a scope give one plan, and one run. -/
theorem plan_congr (alike : ∀ owner, t.Neighbour scope owner →
    (t.vantage scope backend).AgreesOn b owner) : t.plan scope b = t.plan scope backend := by
  have inStep := Plan.build_paired (v := t.vantage scope backend) (b := b) (t := t)
    (Vantage.paired_inStep _)
    (fun p => Vantage.learn_inStep (alike _ .self) p)
    (fun ds described a listed own _ p _ =>
      Vantage.learn_inStep (alike _ (.gateway described listed own)) p)
    (fun ds described a listed relevant gatewayId =>
      Vantage.resolveAttachment_inStep (alike _ ?attached) ..)
    (fun cs made c planned side p _ _ => Vantage.learn_inStep (alike _ ?ends) p)
    (fun vpc defined concerned r rule listed => Vantage.learn_inStep (alike _ ?rule) _)
    (fun key => Vantage.noteRoute_inStep key) ⟨meets_get.mono fun _ _ hs => hs.2, fun _ _ => rfl⟩
    fun e _ => Vantage.inStep_throw e
  case attached =>
    simp only [UnitMap.concerns, UnitMap.ownsGateway, Bool.and_eq_true, Bool.or_eq_true,
      beq_iff_eq] at relevant
    rcases relevant.2 with ours | mine
    · exact .attached described listed relevant.1 ours
    · rw [mine]
      exact .self
  case ends =>
    cases side with
    | accepter => exact .accepter made planned
    | requester =>
      have mine : c.requester.scope = scope := requester_of_requested made planned
      rw [Connection.endOn, mine]
      exact .self
  case rule =>
    simp only [RuleAssociation.concerns, Bool.and_eq_true, beq_iff_eq, List.contains_iff_mem]
      at concerned
    exact .rule defined concerned.1.2 concerned.2 rule listed
  exact inStep.same {} (Vantage.vetted_start _)

end Topology

/-! ## Memories -/

/-- Two memories agree around a scope if lookups about its neighbours find the same: among the
values and the attachments of a neighbour, and among what its account shares in the region of the
scope. Their books may differ, and whatever is of other scopes. -/
structure Memory.AgreeAround (t : Topology) (scope : Scope) (m m' : Memory) : Prop where
  denied : m.denied = m'.denied
  values : ∀ owner, t.Neighbour scope owner → ∀ path,
    m.snapshot.value? owner path = m'.snapshot.value? owner path
  attachments : ∀ owner, t.Neighbour scope owner → ∀ gatewayId name,
    m.snapshot.attachment? owner gatewayId name = m'.snapshot.attachment? owner gatewayId name
  shares : ∀ owner, t.Neighbour scope owner →
    ∀ id, t.registry.accountId? owner.account = some id → ∀ kind name,
      m.snapshot.share? kind name id scope.region = m'.snapshot.share? kind name id scope.region

namespace Memory

variable {t : Topology} {scope : Scope} {m m' : Memory}

theorem AgreeAround.refl (t : Topology) (scope : Scope) (m : Memory) : m.AgreeAround t scope m :=
  ⟨rfl, fun _ _ _ => rfl, fun _ _ _ _ => rfl, fun _ _ _ _ _ _ => rfl⟩

/-- What is published elsewhere makes no difference. -/
theorem AgreeAround.publish (h : m.AgreeAround t scope m') {c : PublishCall}
    (elsewhere : ∀ owner, t.Neighbour scope owner → c.scope.render ≠ owner.render) :
    m.AgreeAround t scope (m'.publish c) where
  denied := h.denied
  values owner near path := by
    have untouched : ¬c.WritesTo owner.render path := fun writes => elsewhere owner near writes.1
    calc m.snapshot.value? owner path
      _ = m'.snapshot.cell? owner.render path := h.values owner near path
      _ = (m'.publish c).snapshot.cell? owner.render path := by rw [cell?_publish, if_neg untouched]
  attachments := h.attachments
  shares := h.shares

/-- An attachment of another scope makes no difference. -/
theorem AgreeAround.addAttachment (h : m.AgreeAround t scope m') {a : AttachmentRecord}
    (elsewhere : ¬t.Neighbour scope ⟨a.account, a.region⟩) :
    m.AgreeAround t scope { m' with snapshot := m'.snapshot.addAttachment a } where
  denied := h.denied
  values := h.values
  attachments owner near gatewayId name := by
    have other : (a.account == owner.account && a.region == owner.region &&
        a.gatewayId == gatewayId && a.name == name) = false := by
      by_contra same
      simp only [Bool.not_eq_false, Bool.and_eq_true, beq_iff_eq] at same
      rw [same.1.1.1, same.1.1.2] at elsewhere
      exact elsewhere near
    rw [h.attachments owner near]
    simp [Snapshot.attachment?, Snapshot.addAttachment, List.find?_append, other]
  shares := h.shares

/-- What an account shares that is no neighbour's, or shares in another region, makes no
difference. -/
theorem AgreeAround.addShare (h : m.AgreeAround t scope m') {share : Share}
    (elsewhere : share.region = scope.region → ∀ owner, t.Neighbour scope owner →
      t.registry.accountId? owner.account ≠ some share.ownerId) :
    m.AgreeAround t scope { m' with snapshot := m'.snapshot.addShare share } where
  denied := h.denied
  values := h.values
  attachments := h.attachments
  shares owner near id member kind name := by
    have other : (share.kind == kind && share.name == name && share.ownerId == id &&
        share.region == scope.region) = false := by
      by_contra same
      simp only [Bool.not_eq_false, Bool.and_eq_true, beq_iff_eq] at same
      exact elsewhere same.2 owner near (same.1.2 ▸ member)
    rw [h.shares owner near id member]
    simp [Snapshot.share?, Snapshot.addShare, List.find?_append, other]

/-- Memories that agree around a scope answer alike about all its neighbours. -/
theorem AgreeAround.agreesOn (agree : m.AgreeAround t scope m') {owner : Scope}
    (near : t.Neighbour scope owner) :
    (t.vantage scope m.backend).AgreesOn m'.backend owner := by
  have access (i : Identity) : m'.access i = m.access i := by
    unfold Memory.access
    rw [agree.denied]
  exact
    { published := fun _ path => congrArg Answer.ofOption (agree.values owner near path).symm
      stored := by
        rintro _ i path rfl
        show m'.answerFor i _ = m.answerFor i _
        rw [answerFor, answerFor, access, agree.values _ near]
      shared := by
        intro _ kind name id member region
        show Answer.ofOption _ = Answer.ofOption _
        rw [show owner.region = scope.region from region, agree.shares owner near id member]
      attached := by
        rintro _ i gatewayId name rfl
        show m'.answerFor i _ = m.answerFor i _
        rw [answerFor, answerFor, access, agree.attachments _ near] }

end Memory

/-- What a unit plans, or why it cannot, and every question that it asks on the way, depends on
nothing that is stored outside its neighbourhood. -/
theorem plan_of_neighbourhood {t : Topology} {scope : Scope} {m m' : Memory}
    (agree : m.AgreeAround t scope m') :
    t.plan scope m.backend = t.plan scope m'.backend :=
  (Topology.plan_congr fun _ near => agree.agreesOn near).symm

/-- The neighbours of the VPC's owner are itself and the owner of the gateway, who owns the other
VPC and the rule as well. -/
theorem Topology.sample_neighbour {owner : Scope}
    (near : Topology.sample.Neighbour ⟨"Workload", "us-east-1"⟩ owner) :
    owner = ⟨"Workload", "us-east-1"⟩ ∨ owner = ⟨"Network", "us-east-1"⟩ := by
  have attachments : ∃ ds, Topology.sample.attachments Topology.sample.registry
      ⟨"Workload", "us-east-1"⟩ = .ok ds ∧ ∀ a ∈ ds,
        a.owner = ⟨"Workload", "us-east-1"⟩ ∧ a.gatewayScope = ⟨"Network", "us-east-1"⟩ :=
    ⟨_, rfl, by decide +kernel⟩
  have connections : ∃ cs, Topology.sample.connectionsOf Topology.sample.registry
      ⟨"Workload", "us-east-1"⟩ "accel" = .ok cs ∧ ∀ c ∈ cs,
        c.accepter.scope = ⟨"Network", "us-east-1"⟩ :=
    ⟨_, rfl, by decide +kernel⟩
  have rules : ∀ r ∈ Topology.sample.network.resolverRules,
      (⟨r.account, r.region⟩ : Scope) = ⟨"Network", "us-east-1"⟩ := by decide +kernel
  cases near with
  | self => exact .inl rfl
  | attached described listed _ _ =>
    obtain ⟨ds, same, all⟩ := attachments
    obtain rfl := Except.ok.inj (same.symm.trans described)
    exact .inl (all _ listed).1
  | gateway described listed _ =>
    obtain ⟨ds, same, all⟩ := attachments
    obtain rfl := Except.ok.inj (same.symm.trans described)
    exact .inr (all _ listed).2
  | accepter made planned =>
    obtain ⟨cs, same, all⟩ := connections
    obtain rfl := Except.ok.inj (same.symm.trans made)
    exact .inr (all _ planned)
  | rule _ _ _ rule _ => exact .inr (rules _ rule)

/-- The memory of the sample with all else that the owner of the VPC needs for its plan. -/
def Memory.samplePublished : Memory :=
  let workload : Scope := ⟨"Workload", "us-east-1"⟩
  let network : Scope := ⟨"Network", "us-east-1"⟩
  sample.publishAll
    [⟨workload, "/accel/network/vpc/App/id", "app"⟩,
      ⟨workload, "/accel/network/vpc/App/routeTables/private/id", "private"⟩,
      ⟨network, "/accel/network/vpc/Shared/id", "shared"⟩,
      ⟨network, "/accel/network/vpc/Shared/routeTables/main/id", "main"⟩,
      ⟨network, "/accel/network/route53Resolver/rule/corp/id", "corp"⟩]

/-- Values in the home region, an attachment there and a share of somebody else do not show in the
plan of the VPC's owner. -/
theorem plan_of_neighbourhood_sample :
    let elsewhere : Memory :=
      let published := Memory.samplePublished.publish
        ⟨⟨"Network", "eu-west-1"⟩, "/accel/network/transitGateways/Core/id", "other"⟩
      let attached := { published with
        snapshot :=
          published.snapshot.addAttachment ⟨"Network", "eu-west-1", "tgw", "App", "other"⟩ }
      { attached with
        snapshot := attached.snapshot.addShare
          ⟨.transitGateway, "Core", "333333333333", "us-east-1", "other"⟩ }
    Memory.samplePublished.snapshot ≠ elsewhere.snapshot ∧
      ∃ p s,
        Topology.sample.plan ⟨"Workload", "us-east-1"⟩ Memory.samplePublished.backend = .ok p s ∧
        Topology.sample.plan ⟨"Workload", "us-east-1"⟩ elsewhere.backend = .ok p s := by
  intro elsewhere
  have agree : Memory.samplePublished.AgreeAround .sample ⟨"Workload", "us-east-1"⟩ elsewhere := by
    refine (((Memory.AgreeAround.refl _ _ _).publish fun owner near => ?_).addAttachment
      fun near => ?_).addShare fun _ owner near => ?_
    · rcases Topology.sample_neighbour near with rfl | rfl
      · decide
      · decide
    · exact (Topology.sample_neighbour near).elim (by decide) (by decide)
    · rcases Topology.sample_neighbour near with rfl | rfl
      · decide
      · decide
  have run : (Plan.build (Topology.sample.vantage ⟨"Workload", "us-east-1"⟩
      Memory.samplePublished.backend) .sample).comesTo (fun _ => true) = true := by
    decide +kernel
  obtain ⟨p, s, planned, -⟩ := Lookup.exists_of_comesTo run
  exact ⟨by decide +kernel, p, s, planned, (plan_of_neighbourhood agree).symm.trans planned⟩

end Interlink
