import Interlink.Proofs.Accounts
import Interlink.Proofs.Calls

/-!
# Foreign gateways are asked about only where they are needed

A unit looks outside its own store for a gateway, or for one of its route tables, only for
the sake of an attachment of its own (`Vantage.GatewayQuestion`): the gateway is that of the
attachment, it is in another account and in the unit's region, and a route table is one that
the gateway defines and the attachment names. The id of a gateway is looked for in the
share of its owner, and read under the owner's identity only right after the share had
nothing. This holds of every question when it is asked, so of a run that ends with an error
as well, and of every topology (`gateways_sought_sparingly`).

The questions are gone through stage by stage by `Plan.build_paired`, which says what each
stage needs. What carries them is a property of runs, `Vantage.Sparing`, that a unit keeps
while it learns a value, if whatever has to be asked for the value may be asked
(`Vantage.Warranted`). Of the values that are not of a gateway there is nothing to show,
since no path is that of a gateway and of something else (`Published.path_ne`).
-/

namespace Interlink

open Lookup

/-! ## Questions about gateways -/

/-- A question looks outside the store of the unit for a gateway or a route table of one. -/
def Query.SeeksGateway (pathPrefix : String) : Query → Prop
  | .share kind .. => kind = .transitGateway ∨ kind = .transitGatewayRouteTable
  | .remoteValue _ path => ∃ p : Published, p.ofGateway = true ∧ p.path pathPrefix = path
  | .localValue .. | .attachment .. => False

namespace Vantage

/-- An attachment of the unit is on a gateway of another account, in the region of the unit. -/
structure Abroad (v : Vantage) (t : Topology) (a : Attachment) : Prop where
  described : ∃ ds, t.attachments v.accounts v.caller = .ok ds ∧ a ∈ ds
  own : a.owner = v.caller
  foreign : a.gatewayAccount ≠ v.caller.account
  gateway : ∃ g, t.gateway? a.gateway a.gatewayAccount = some g ∧ g.region = v.caller.region
  region : a.region = v.caller.region

/-- A question about a gateway that a unit may ask others after some exchanges. -/
inductive GatewayQuestion (v : Vantage) (t : Topology) (past : List Exchange) : Query → Prop
  /-- The unit looks for the gateway in the share of its owner. -/
  | shared {a : Attachment} {id : String} (abroad : v.Abroad t a)
      (member : v.accounts.accountId? a.gatewayAccount = some id) :
      GatewayQuestion v t past (.share .transitGateway a.gateway id v.caller.region)
  /-- The share had nothing, and the unit reads the id in the store of the owner. -/
  | read {a : Attachment} {id : String} {i : Identity} (abroad : v.Abroad t a)
      (member : v.accounts.accountId? a.gatewayAccount = some id)
      (missed : past.getLast? =
        some ⟨.share .transitGateway a.gateway id v.caller.region, .missing⟩)
      (identity : v.Canonical .parameterShare ⟨a.gatewayAccount, v.caller.region⟩ i) :
      GatewayQuestion v t past
        (.remoteValue i ((Published.transitGateway a.gateway).path v.pathPrefix))
  /-- The unit reads the id of a route table that the gateway defines and the attachment
  names. -/
  | table {a : Attachment} {g : Gateway} {table : String} {i : Identity} (abroad : v.Abroad t a)
      (named : table ∈ a.associations ++ a.propagations)
      (found : t.gateway? a.gateway a.gatewayAccount = some g)
      (defined : g.hasRouteTable table = true)
      (identity : v.Canonical .parameterShare ⟨a.gatewayAccount, v.caller.region⟩ i) :
      GatewayQuestion v t past
        (.remoteValue i ((Published.transitGatewayRouteTable a.gateway table).path v.pathPrefix))

/-- A run in which every question about a gateway could be asked when it was, and every identity
is the one for its key. -/
structure Sparing (v : Vantage) (t : Topology) (s : Run) : Prop where
  asked : ∀ {past : List Exchange} {e : Exchange}, past ++ [e] <+: s.exchanges →
    e.query.SeeksGateway v.pathPrefix → v.GatewayQuestion t past e.query
  vetted : v.Vetted s

variable {v : Vantage} {t : Topology} {s : Run}

theorem sparing_start : v.Sparing t {} where
  asked h := absurd h Run.not_asked_start
  vetted := vetted_start v

theorem Sparing.note (h : v.Sparing t s) (key : RecallKey) : v.Sparing t (s.note key) where
  asked hp := h.asked (by simpa using hp)
  vetted := h.vetted

theorem Sparing.hit (h : v.Sparing t s) : v.Sparing t s.hit := ⟨h.asked, h.vetted⟩

theorem Sparing.remember (h : v.Sparing t s) (key : RecallKey) (value : String) :
    v.Sparing t (s.remember key value) := ⟨h.asked, h.vetted⟩

theorem Sparing.enlist (h : v.Sparing t s) {key : HelperKey} {i : Identity}
    (canonical : v.Canonical key.purpose ⟨key.account, key.region⟩ i) :
    v.Sparing t (s.enlist key i) := ⟨h.asked, h.vetted.enlist canonical⟩

theorem Sparing.exchange (h : v.Sparing t s) {q : Query} {a : Answer}
    (warranted : q.SeeksGateway v.pathPrefix → v.GatewayQuestion t s.exchanges q) :
    v.Sparing t (s.exchange q a) where
  asked hp seeks := by
    rcases Run.asked_exchange.mp hp with ⟨rfl, rfl⟩ | earlier
    · exact warranted seeks
    · exact h.asked earlier seeks
  vetted := h.vetted

/-! ## Asking -/

/-- A question is asked where it may be. If nothing is found, that was the last answer. -/
theorem askFor_sparing {pre : Run → Prop} {path : String} {owner : Scope} {q : Query}
    (sparing : ∀ s, pre s → v.Sparing t s)
    (warranted : ∀ s, pre s → q.SeeksGateway v.pathPrefix → v.GatewayQuestion t s.exchanges q) :
    Meets pre (v.askFor path owner q)
      (fun found s => v.Sparing t s ∧ (found = none → s.exchanges.getLast? = some ⟨q, .missing⟩))
      (v.Sparing t) := by
  refine meets_askFor (fun s x hs => ⟨?_, nofun⟩) (fun s hs => ⟨?_, fun _ => by simp⟩)
    fun s e hs => ?_
  · exact (sparing s hs).exchange (warranted s hs)
  · exact (sparing s hs).exchange (warranted s hs)
  · exact (sparing s hs).exchange (warranted s hs)

/-- The identity of an owner is made or found, and nothing is asked. -/
theorem identity_sparing {purpose : RolePurpose} {owner : Scope} {role : Option String}
    {K : List Exchange → Prop} (canonical : role = v.roleFor purpose owner) :
    Meets (fun s => v.Sparing t s ∧ K s.exchanges) (v.identity purpose owner role)
      (fun i s => (v.Sparing t s ∧ K s.exchanges) ∧ v.Canonical purpose owner i)
      (v.Sparing t) :=
  (identity_vetted (J := fun s => v.Sparing t s ∧ K s.exchanges) (fun _ hs => hs.1.vetted)
    (fun _ _ _ hs new => ⟨hs.1.enlist new, hs.2⟩) canonical).weaken (fun _ hs => hs)
      (fun _ _ hs => hs) fun _ hs => hs.1

/-- What has to be asked for a value may be asked: the share of the owner at any time, and the
store of the owner once the share has had nothing, if the value is looked for there. -/
structure Warranted (v : Vantage) (t : Topology) (r : Reference) (owner : Scope) : Prop where
  shared : v.looksInShare r.kind owner = true → ∀ past id,
    v.accounts.accountId? owner.account = some id →
      (Query.share r.kind r.name id owner.region).SeeksGateway v.pathPrefix →
        v.GatewayQuestion t past (.share r.kind r.name id owner.region)
  read : owner ≠ v.caller → ∀ past i, v.Canonical .parameterShare owner i →
    (v.looksInShare r.kind owner = true → ∃ id, v.accounts.accountId? owner.account = some id ∧
      past.getLast? = some ⟨.share r.kind r.name id owner.region, .missing⟩) →
    (Query.remoteValue i r.path).SeeksGateway v.pathPrefix →
      v.GatewayQuestion t past (.remoteValue i r.path)

section Warranted

variable {r : Reference} {owner : Scope} (warranted : v.Warranted t r owner)
include warranted

theorem readRemote_sparing {role : Option String} {K : List Exchange → Prop}
    (other : owner ≠ v.caller) (canonical : role = v.roleFor .parameterShare owner)
    (missed : ∀ past, K past → v.looksInShare r.kind owner = true →
      ∃ id, v.accounts.accountId? owner.account = some id ∧
        past.getLast? = some ⟨.share r.kind r.name id owner.region, .missing⟩) :
    Meets (fun s => v.Sparing t s ∧ K s.exchanges) (v.readRemote r owner role)
      (fun _ s => v.Sparing t s) (v.Sparing t) := by
  refine Meets.bind _ (identity_sparing canonical) fun i => ?_
  refine (askFor_sparing (fun s hs => hs.1.1) fun s hs => ?_).mono fun _ _ hs => hs.1
  exact warranted.read other s.exchanges i hs.2 (missed s.exchanges hs.1.2)

theorem readShared_sparing (share : v.looksInShare r.kind owner = true) :
    Keeps (v.Sparing t) (v.readShared r owner) := by
  refine Meets.bind (fun id s => v.accounts.accountId? owner.account = some id ∧ v.Sparing t s)
    (meets_ofExcept (fun id found s hs => ⟨requireId_ok found, hs⟩) fun _ hs => hs) fun id =>
      Meets.assuming fun member => ?_
  refine Meets.bind _ (askFor_sparing (fun s hs => hs) fun s _ =>
    warranted.shared share s.exchanges id member) fun found => ?_
  cases found with
  | some value => exact meets_pure fun _ hs => hs.1
  | none =>
    have other := (looksInShare_iff.mp share).1
    refine (readRemote_sparing warranted
      (K := fun past => past.getLast? =
        some ⟨.share r.kind r.name id owner.region, .missing⟩)
      (fun same => other (congrArg Scope.account same)) (roleFor_other other _).symm
      fun past last _ => ⟨id, member, last⟩).weaken (fun s hs => ⟨hs.1, hs.2 rfl⟩)
        (fun _ _ hs => hs) fun _ hs => hs

/-- A value is fetched sparingly. -/
theorem fetch_sparing : Keeps (v.Sparing t) (v.fetch r owner) := by
  rw [fetch_eq]
  by_cases same : owner = v.caller
  · rw [if_pos same]
    exact (askFor_sparing (fun _ hs => hs) fun _ _ => False.elim).mono fun _ _ hs => hs.1
  · rw [if_neg same]
    split
    · next share => exact readShared_sparing warranted share
    · next alone =>
      exact (readRemote_sparing warranted (K := fun _ => True) same rfl
        fun _ _ share => absurd share alone).weaken (fun _ hs => ⟨hs, trivial⟩)
          (fun _ _ hs => hs) fun _ hs => hs

end Warranted

theorem recalled_sparing {key : RecallKey} {path : String} {fetch : Lookup (Option String)}
    (h : Keeps (v.Sparing t) fetch) : Keeps (v.Sparing t) (recalled key path fetch) :=
  (meets_recalled (fun _ hs => hs.note _) (fun _ hs => hs.hit) h
    (fun _ value hs => hs.remember _ value) fun _ hs => hs).mono fun _ _ hs => hs.1

/-! ## Learning -/

/-- There is nothing to show of a value that is the unit's own, or not of a gateway. -/
theorem warranted_of_other {p : Published} {owner : Scope}
    (other : owner = v.caller ∨ p.ofGateway = false) :
    v.Warranted t (p.reference v.pathPrefix) owner where
  shared share past id member seeks := by
    rcases other with own | other
    · exact absurd (congrArg Scope.account own) (looksInShare_iff.mp share).1
    · cases p <;> simp_all [Query.SeeksGateway, Published.reference, Published.kind,
        Published.ofGateway]
  read foreign past i _ _ seeks := by
    rcases other with own | other
    · exact absurd own foreign
    · obtain ⟨q, gateway, same⟩ := seeks
      exact absurd same (Published.path_ne gateway other v.pathPrefix)

theorem learn_sparing {p : Published} {owner : Scope}
    (other : owner = v.caller ∨ p.ofGateway = false) : Keeps (v.Sparing t) (v.learn p owner) :=
  recalled_sparing (fetch_sparing (warranted_of_other other))

/-- What an attachment of the unit needs of its gateway may be asked for. -/
theorem warranted_of_needs {ds : List Attachment} {a : Attachment}
    (described : t.attachments v.accounts v.caller = .ok ds) (listed : a ∈ ds)
    (own : a.owner = v.caller) (relevant : UnitMap.concerns v.caller a = true) {p : Published}
    (needed : UnitMap.NeedsOfGateway t v.caller a p) :
    v.Warranted t (p.reference v.pathPrefix) a.gatewayScope := by
  have region := UnitMap.region_of_concerns relevant
  have scope : a.gatewayScope = ⟨a.gatewayAccount, v.caller.region⟩ := by
    rw [Attachment.gatewayScope, region]
  rw [scope]
  by_cases ours : a.gatewayAccount = v.caller.account
  · exact warranted_of_other (.inl (by rw [ours]))
  obtain ⟨g, found, there⟩ := UnitMap.gateway?_of_described described listed
  have abroad : v.Abroad t a :=
    ⟨⟨ds, described, listed⟩, own, ours, ⟨g, found, there.trans region⟩, region⟩
  cases needed with
  | gateway =>
    have share : v.looksInShare .transitGateway ⟨a.gatewayAccount, v.caller.region⟩ = true :=
      looksInShare_iff.mpr ⟨ours, rfl, rfl⟩
    refine ⟨fun _ _ _ member _ => .shared abroad member, fun _ _ _ canonical missed _ => ?_⟩
    obtain ⟨id, member, last⟩ := missed share
    exact .read abroad member last canonical
  | table needed =>
    obtain ⟨-, -, named, g', found', defined⟩ := UnitMap.mem_foreignTables.mp needed
    refine ⟨fun share => ?_, fun _ _ _ canonical _ _ => ?_⟩
    · cases (looksInShare_iff.mp share).2.2
    · exact .table abroad named found' defined canonical

/-- No attachment is a gateway. -/
theorem resolveAttachment_sparing (kind : AttachmentKind) (child name gatewayId : String)
    (owner : Scope) :
    Keeps (v.Sparing t) (v.resolveAttachment kind child name gatewayId owner) := by
  unfold resolveAttachment
  dsimp only
  split
  · exact learn_sparing (p := .attachment kind child name) (.inr rfl)
  · have asked : Keeps (v.Sparing t) (do
        let identity ← v.identity .describeAttachments owner
          (some (RolePurpose.describeAttachments.roleName v.pathPrefix owner.region))
        v.askFor ((Published.attachment kind child name).path v.pathPrefix) owner
          (.attachment identity gatewayId name)) := by
      refine Meets.bind _ ((identity_sparing (K := fun _ => True) rfl).weaken
        (fun _ hs => ⟨hs, trivial⟩) (fun _ _ hs => hs) fun _ hs => hs) fun i => ?_
      exact (askFor_sparing (fun _ hs => hs.1.1) fun _ _ => False.elim).mono fun _ _ hs => hs.1
    exact recalled_sparing asked

end Vantage

/-! ## A whole run -/

/-- A unit is planned sparingly, whether a plan comes of it or not. -/
theorem Plan.build_sparing (v : Vantage) (t : Topology) : Keeps (v.Sparing t) (Plan.build v t) :=
  Plan.build_paired (b := v.backend) (closed_keeps (v.Sparing t)).paired
    (fun _ => Vantage.learn_sparing (.inl rfl))
    (fun _ described _ listed own relevant _ needed => Vantage.recalled_sparing
      (Vantage.fetch_sparing (Vantage.warranted_of_needs described listed own relevant needed)))
    (fun _ _ _ _ _ _ => Vantage.resolveAttachment_sparing ..)
    (fun _ _ _ _ _ _ _ other => Vantage.learn_sparing (.inr other))
    (fun _ _ _ _ _ _ => Vantage.learn_sparing (.inr rfl))
    (PeeringPlan.noteRoute_keeps fun _ _ hs => ⟨hs.asked, hs.vetted⟩)
    (meets_get.mono fun _ _ hs => hs.2) fun _ _ => keeps_throw

theorem Topology.runOf_sparing (t : Topology) (scope : Scope) (backend : Backend) :
    (t.vantage scope backend).Sparing t (t.runOf scope backend) := by
  have kept := Plan.build_sparing (t.vantage scope backend) t
  unfold runOf
  cases run : t.plan scope backend with
  | ok p s => exact (kept.ok Vantage.sparing_start run).2
  | error e s => exact (kept.error Vantage.sparing_start run).2

/-- The account, by its id, and the region that a question about a value goes to. -/
def Query.addressee? : Query → Option (String × String)
  | .share _ _ ownerId region => some (ownerId, region)
  | .remoteValue i _ => some (i.accountId, i.region)
  | .localValue .. | .attachment .. => none

/-- A question about a gateway goes to the account of a gateway that the unit is attached to. -/
theorem Vantage.GatewayQuestion.addressee {v : Vantage} {t : Topology} {past : List Exchange}
    {q : Query} (h : v.GatewayQuestion t past q) :
    ∃ a id, v.Abroad t a ∧ v.accounts.accountId? a.gatewayAccount = some id ∧
      q.addressee? = some (id, v.caller.region) := by
  cases h with
  | shared abroad member => exact ⟨_, _, abroad, member, rfl⟩
  | read abroad _ _ identity =>
    exact ⟨_, _, abroad, identity.accountId,
      congrArg (fun region => some (_, region)) (congrArg Scope.region identity.scope)⟩
  | table abroad _ _ _ identity =>
    exact ⟨_, _, abroad, identity.accountId,
      congrArg (fun region => some (_, region)) (congrArg Scope.region identity.scope)⟩

/-- In a valid topology a unit looks outside its store for a gateway only for the sake of an
attachment of its own, and never in its own account. This holds of every backend, and of a unit
that cannot be planned as well. -/
theorem gateways_sought_sparingly {t : Topology} (valid : t.validate = .ok ()) (scope : Scope)
    (backend : Backend) :
    ∀ past e, past ++ [e] <+: (t.runOf scope backend).exchanges →
      e.query.SeeksGateway (t.vantage scope backend).pathPrefix →
      (t.vantage scope backend).GatewayQuestion t past e.query ∧
        ∃ id, e.query.addressee? = some (id, scope.region) ∧
          t.registry.accountId? scope.account ≠ some id := by
  intro past e asked seeks
  have question := (t.runOf_sparing scope backend).asked asked seeks
  obtain ⟨a, id, abroad, member, addressee⟩ := question.addressee
  refine ⟨question, id, addressee, fun own => abroad.foreign ?_⟩
  exact (Topology.faultless_of_validate valid).accountId?_injective member own

/-- Everything is published, and nothing is shared. -/
def publishedOnly : Query → Answer
  | .share .. => .missing
  | _ => .value "id"

/-- The owner of a VPC reads the id of the gateway once its owner is found to share none. -/
theorem gateways_sought_sparingly_sample :
    ∃ past i, past ++
        [⟨.remoteValue i "/accel/network/transitGateways/Core/id", .value "id"⟩] <+:
        (Topology.sample.runOf ⟨"Workload", "us-east-1"⟩ (.fixed publishedOnly)).exchanges ∧
      past.getLast? =
        some ⟨.share .transitGateway "Core" "111111111111" "us-east-1", .missing⟩ ∧
      (Topology.sample.vantage ⟨"Workload", "us-east-1"⟩ (.fixed publishedOnly)).GatewayQuestion
        .sample past (.remoteValue i "/accel/network/transitGateways/Core/id") := by
  have fourth : (Topology.sample.runOf ⟨"Workload", "us-east-1"⟩
      (.fixed publishedOnly)).exchanges[3]? =
        some ⟨.share .transitGateway "Core" "111111111111" "us-east-1", .missing⟩ := by
    decide +kernel
  have fifth : (Topology.sample.runOf ⟨"Workload", "us-east-1"⟩
      (.fixed publishedOnly)).exchanges[4]? =
        some ⟨.remoteValue ⟨"Network", "111111111111", "us-east-1",
          some "accel-CrossAccountParameterShare-us-east-1"⟩
          "/accel/network/transitGateways/Core/id", .value "id"⟩ := by
    decide +kernel
  obtain ⟨bound, found⟩ := List.getElem?_eq_some_iff.mp fifth
  have asked := List.take_prefix 5 (Topology.sample.runOf ⟨"Workload", "us-east-1"⟩
    (.fixed publishedOnly)).exchanges
  rw [← List.take_append_getElem bound, found] at asked
  have sought := gateways_sought_sparingly Topology.sample_valid ⟨"Workload", "us-east-1"⟩
    (.fixed publishedOnly) _ _ asked ⟨.transitGateway "Core", rfl, rfl⟩
  refine ⟨_, _, asked, ?_, sought.1⟩
  simp [List.getLast?_take, fourth]

end Interlink
