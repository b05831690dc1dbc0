import Interlink.Proofs.PeeringRoutes
import Interlink.Proofs.Permission

/-!
# Every question of a unit is permitted

The stages of a plan ask through the resolver, and so every stage keeps a run
disciplined, if what it asks for is something that the owner shares or need not
share. That much each stage reads off the topology. Only the attachments need
more: a unit asks for the attachment of another owner with the gateway id that
stands in its map, and this has to be the id of a gateway of its own. The map
holds the ids of all own gateways before any attachment is looked at
(`OwnIds`), and no foreign gateway takes the place of one.
-/

namespace Interlink

open Lookup

namespace Key

/-- Gateways of one account have different keys if they have different names. -/
theorem gateway_injective {gateway gateway' account : String}
    (h : Key.gateway gateway account = Key.gateway gateway' account) : gateway = gateway' := by
  unfold Key.gateway at h
  simpa using h

end Key

namespace UnitMap

variable {v : Vantage} {t : Topology} {m : UnitMap} {s : Run} {gs : List Gateway}

/-! ## The unit's own gateways -/

/-- The map has the ids of some gateways as they were read. -/
def OwnIds (v : Vantage) (gs : List Gateway) (m : UnitMap) (s : Run) : Prop :=
  ∀ g ∈ gs, ∃ id, m.gatewayId? g.name g.account = some id ∧
    s.Knows ⟨(Published.transitGateway g.name).path v.pathPrefix, v.caller⟩ id

theorem stable_ownIds (gs : List Gateway) (m : UnitMap) : Run.Stable (OwnIds v gs m) := by
  intro s s' continues ids g hg
  obtain ⟨id, found, known⟩ := ids g hg
  exact ⟨id, found, continues.knows known⟩

/-- A gateway of the unit is added; it replaces at most one of its own name. -/
theorem OwnIds.addGateway (ids : OwnIds v gs m s) (own : ∀ g ∈ gs, g.account = v.caller.account)
    {g : Gateway} (account : g.account = v.caller.account) {id : String}
    (known : s.Knows ⟨(Published.transitGateway g.name).path v.pathPrefix, v.caller⟩ id) :
    OwnIds v (gs ++ [g]) (m.addGateway g.name g.account id) s := by
  intro g' hg'
  have lookup : (m.addGateway g.name g.account id).gatewayId? g'.name g'.account =
      if Key.gateway g'.name g'.account = Key.gateway g.name g.account then some id
      else m.gatewayId? g'.name g'.account := SortedMap.get?_insert ..
  rw [lookup]
  rcases List.mem_append.mp hg' with earlier | last
  · split
    · next same =>
      rw [own g' earlier, account] at same
      rw [Key.gateway_injective same]
      exact ⟨id, rfl, known⟩
    · exact ids g' earlier
  · rw [List.mem_singleton.mp last, if_pos rfl]
    exact ⟨id, rfl, known⟩

/-- A gateway whose key is new replaces none. -/
theorem OwnIds.addForeign (ids : OwnIds v gs m s) {gateway account id : String}
    (new : m.gatewayId? gateway account = none) :
    OwnIds v gs (m.addGateway gateway account id) s := by
  intro g hg
  obtain ⟨id', found, known⟩ := ids g hg
  refine ⟨id', ?_, known⟩
  have other : Key.gateway g.name g.account ≠ Key.gateway gateway account := by
    intro same
    rw [gatewayId?, same] at found
    exact nomatch new.symm.trans found
  show (m.gateways.insert _ id).get? _ = some id'
  rw [SortedMap.get?_insert, if_neg other]
  exact found

theorem resolveRouteTable_disciplined (g : Gateway) (table : GatewayRouteTable) :
    Meets (fun s => v.Disciplined t s ∧ OwnIds v gs m s) (resolveRouteTable v g m table)
      (fun m' s => v.Disciplined t s ∧ OwnIds v gs m' s) (v.Disciplined t) :=
  ((Vantage.learn_keeps rfl).and_stable (stable_ownIds gs m)).bind _ fun _ =>
    meets_pure fun _ hs => hs

theorem resolveGateway_disciplined (own : ∀ g ∈ gs, g.account = v.caller.account) {g : Gateway}
    (hg : g ∈ ownGateways t v.caller) :
    Meets (fun s => v.Disciplined t s ∧ OwnIds v gs m s) (resolveGateway v m g)
      (fun m' s => v.Disciplined t s ∧ OwnIds v (gs ++ [g]) m' s) (v.Disciplined t) := by
  obtain ⟨defined, account, region⟩ := mem_ownGateways.mp hg
  have offered : Vantage.Offered t .transitGateway g.name v.caller := by
    have here : v.caller = ⟨g.account, g.region⟩ := by rw [account, region]
    rw [here]
    exact .gateway defined
  refine ((Vantage.learn_disciplined (p := .transitGateway g.name) fun _ => offered).and_stable
    (stable_ownIds gs m)).bind _ fun id => ?_
  have tables := meets_foldlM (f := resolveRouteTable v g)
    (fun _ m s => v.Disciplined t s ∧ OwnIds v (gs ++ [g]) m s) [] g.routeTables
    (m.addGateway g.name g.account id) fun _ table _ _ _ => resolveRouteTable_disciplined g table
  refine tables.weaken (fun s hs => ⟨hs.1.1, ?_⟩) (fun _ _ hs => hs) fun _ hs => hs
  exact hs.2.addGateway own account hs.1.2

/-! ## Attachments -/

theorem resolveRemoteRouteTable_disciplined (a : Attachment) (g : Gateway) (table : String) :
    Meets (fun s => v.Disciplined t s ∧ OwnIds v gs m s) (resolveRemoteRouteTable v a g m table)
      (fun m' s => v.Disciplined t s ∧ OwnIds v gs m' s) (v.Disciplined t) := by
  unfold resolveRemoteRouteTable
  split
  · exact meets_pure fun _ hs => hs
  · exact ((Vantage.learn_keeps rfl).and_stable (stable_ownIds gs m)).bind _ fun _ =>
      meets_pure fun _ hs => hs

theorem resolveRemoteRouteTables_disciplined (a : Attachment) :
    Meets (fun s => v.Disciplined t s ∧ OwnIds v gs m s) (resolveRemoteRouteTables v t m a)
      (fun m' s => v.Disciplined t s ∧ OwnIds v gs m' s) (v.Disciplined t) := by
  unfold resolveRemoteRouteTables
  cases t.gateway? a.gateway a.gatewayAccount with
  | none => exact meets_pure fun _ hs => hs
  | some g =>
    exact meets_foldlM (fun _ m s => v.Disciplined t s ∧ OwnIds v gs m s) [] _ m
      fun _ table _ _ _ => resolveRemoteRouteTable_disciplined a g table

/-- An attachment of another owner that concerns the unit is on a gateway of the
unit, and so it is that of a VPC. -/
theorem foreign_of_concerns {a : Attachment} (grounded : t.Grounded a)
    (relevant : concerns v.caller a = true) (foreign : a.owner ≠ v.caller) :
    (∃ g ∈ ownGateways t v.caller, g.name = a.gateway ∧ g.account = a.gatewayAccount) ∧
      a.kind = .vpc ∧ a.owner.account ≠ v.caller.account ∧ a.owner.region = v.caller.region := by
  have region := region_of_concerns relevant
  have account : a.gatewayAccount = v.caller.account := by
    simp only [concerns, Bool.and_eq_true, Bool.or_eq_true, beq_iff_eq] at relevant
    rcases relevant.2 with owned | own
    · exact beq_iff_eq.mp owned
    · exact absurd own foreign
  obtain ⟨g, found, there⟩ := grounded.gateway
  obtain ⟨defined, name, gatewayAccount⟩ := Topology.gateway?_some found
  have ownerRegion : a.owner.region = v.caller.region := grounded.region.trans region
  refine ⟨⟨g, mem_ownGateways.mpr ⟨defined, gatewayAccount.trans account, there.trans region⟩,
    name, gatewayAccount⟩, ?_, ?_, ownerRegion⟩
  · by_contra other
    refine foreign ((grounded.owner other).trans ?_)
    rw [Attachment.gatewayScope, account, region]
  · intro same
    exact foreign (Scope.eq_iff.mpr ⟨beq_iff_eq.mpr same, beq_iff_eq.mpr ownerRegion⟩)

theorem offered_of_grounded {a : Attachment} (grounded : t.Grounded a) :
    Vantage.Offered t .transitGateway a.gateway a.gatewayScope := by
  obtain ⟨g, found, region⟩ := grounded.gateway
  obtain ⟨defined, name, account⟩ := Topology.gateway?_some found
  rw [Attachment.gatewayScope, ← name, ← account, ← region]
  exact .gateway defined

theorem resolveAttachment_disciplined {ds : List Attachment} {a : Attachment}
    (described : t.attachments v.accounts v.caller = .ok ds) (listed : a ∈ ds)
    (grounded : t.Grounded a) (relevant : concerns v.caller a = true) :
    Meets (fun s => v.Disciplined t s ∧ OwnIds v (ownGateways t v.caller) m s)
      (resolveAttachment v t m a)
      (fun m' s => v.Disciplined t s ∧ OwnIds v (ownGateways t v.caller) m' s)
      (v.Disciplined t) := by
  rw [resolveAttachment_eq]
  refine (meets_refuse fun _ hs => hs.1).bind _ fun _ => Meets.assuming fun _ => ?_
  have tables : Meets (fun s => v.Disciplined t s ∧ OwnIds v (ownGateways t v.caller) m s)
      (if a.owner == v.caller && !ownsGateway v.caller a then
        resolveRemoteRouteTables v t m a else pure m : Lookup UnitMap)
      (fun m' s => v.Disciplined t s ∧ OwnIds v (ownGateways t v.caller) m' s)
      (v.Disciplined t) := by
    split
    · exact resolveRemoteRouteTables_disciplined a
    · exact meets_pure fun _ hs => hs
  refine tables.bind _ fun m₁ => ?_
  refine (meets_refuse fun _ hs => hs.1).bind _ fun _ => Meets.assuming fun _ => ?_
  have asked := (Vantage.resolveAttachment_disciplined
    ((m₁.gatewayId? a.gateway a.gatewayAccount).getD "") described listed
    fun foreign => (foreign_of_concerns grounded relevant foreign).2).and_stable
      (stable_ownIds (v := v) (ownGateways t v.caller) m₁)
  refine (asked.weaken (fun s hs => ⟨⟨hs.1, fun foreign => ?_⟩, hs.2⟩) (fun _ _ hs => hs)
    fun _ hs => hs).bind _ fun id => ?_
  · obtain ⟨⟨g, hg, name, account⟩, -⟩ := foreign_of_concerns grounded relevant foreign
    obtain ⟨id, found, known⟩ := hs.2 g hg
    rw [name, account] at found
    rw [found, Option.getD_some]
    exact ⟨g, hg, name, account, known⟩
  · cases known : m₁.gatewayId? a.gateway a.gatewayAccount with
    | some gatewayId => exact meets_pure fun _ hs => hs
    | none =>
      refine ((Vantage.learn_disciplined (p := .transitGateway a.gateway) fun _ =>
        offered_of_grounded grounded).and_stable (stable_ownIds _ m₁)).bind _ fun gatewayId =>
          meets_pure fun s hs => ⟨hs.1.1, ?_⟩
      exact hs.2.addForeign known

/-- The map of a unit is resolved under discipline. -/
theorem build_disciplined (faultless : t.Faultless) : Keeps (v.Disciplined t) (build v t) := by
  unfold build
  have start (s : Run) (hs : v.Disciplined t s) :
      v.Disciplined t s ∧ OwnIds v [] { scope := v.caller } s := ⟨hs, by simp [OwnIds]⟩
  have own : Meets (fun s => v.Disciplined t s ∧ OwnIds v [] { scope := v.caller } s)
      ((ownGateways t v.caller).foldlM (resolveGateway v) { scope := v.caller })
      (fun m s => v.Disciplined t s ∧ OwnIds v (ownGateways t v.caller) m s)
      (v.Disciplined t) := by
    refine meets_foldlM (fun done m s => v.Disciplined t s ∧ OwnIds v done m s) []
      (ownGateways t v.caller) { scope := v.caller } fun before g after m split => ?_
    rw [List.nil_append] at split
    have mine : ∀ g' ∈ before ++ g :: after, g' ∈ ownGateways t v.caller := fun g' hg' => by
      rwa [split]
    refine resolveGateway_disciplined (fun g' hg' => ?_) (mine g (by simp))
    exact (mem_ownGateways.mp (mine g' (List.mem_append_left _ hg'))).2.1
  refine (own.weaken start (fun _ _ hs => hs) fun _ hs => hs).bind _ fun m => ?_
  refine Meets.bind (fun ds s => t.attachments v.accounts v.caller = .ok ds ∧
    v.Disciplined t s ∧ OwnIds v (ownGateways t v.caller) m s)
    (meets_ofExcept (fun ds described s hs => ⟨described, hs⟩) fun _ hs => hs.1) fun ds =>
      Meets.assuming fun described => ?_
  have attached : Meets (fun s => v.Disciplined t s ∧ OwnIds v (ownGateways t v.caller) m s)
      ((ds.filter (concerns v.caller)).foldlM (resolveAttachment v t) m)
      (fun m' s => v.Disciplined t s ∧ OwnIds v (ownGateways t v.caller) m' s)
      (v.Disciplined t) := by
    refine meets_foldlM (fun _ m s => v.Disciplined t s ∧ OwnIds v (ownGateways t v.caller) m s)
      [] (ds.filter (concerns v.caller)) m fun before a after m split => ?_
    have ha : a ∈ ds.filter (concerns v.caller) := by
      rw [List.nil_append] at split
      rw [split]
      simp
    obtain ⟨listed, relevant⟩ := List.mem_filter.mp ha
    exact resolveAttachment_disciplined described listed
      (faultless.grounded described listed) relevant
  refine attached.bind _ fun m₁ => ?_
  have lists : Meets (v.Disciplined t)
      ((t.network.prefixLists.filter (·.isDeployedTo v.caller.account v.caller.region)).foldlM
        (resolvePrefixList v) m₁) (fun _ s => v.Disciplined t s) (v.Disciplined t) :=
    meets_foldlM (fun _ _ s => v.Disciplined t s) [] _ m₁ fun _ _ _ _ _ =>
      (Vantage.learn_keeps rfl).bind fun _ => keeps_pure
  exact lists.weaken (fun _ hs => hs.1) (fun _ _ hs => hs) fun _ hs => hs

end UnitMap

/-! ## A whole run -/

/-- A unit is planned under discipline, whether a plan comes of it or not. -/
theorem Plan.build_disciplined {v : Vantage} {t : Topology} (faultless : t.Faultless) :
    Keeps (v.Disciplined t) (Plan.build v t) := by
  refine keeps_ofExcept.bind fun _ => (UnitMap.build_disciplined faultless).bind fun m => ?_
  refine keeps_ofExcept.bind fun _ => keeps_ofExcept.bind fun _ => ?_
  refine Keeps.bind (PeeringPlan.build_keeps (fun _ _ alone => Vantage.learn_keeps alone)
    fun s key hs => ⟨hs.permitted, hs.identities, hs.own⟩) fun _ => ?_
  refine Keeps.bind (RuleAssociation.build_keeps (fun rule defined => ?_) fun name => ?_)
    fun _ => Meets.bind _ meets_get fun _ => meets_pure fun _ hs => hs.2
  · exact (Vantage.learn_disciplined fun _ => .rule defined).mono fun _ _ hs => hs.1
  · exact Vantage.learn_keeps rfl

/-- The run of a unit, whether a plan comes of it or not. -/
def Topology.runOf (t : Topology) (scope : Scope) (backend : Backend) : Run :=
  match t.plan scope backend with
  | .ok _ s => s
  | .error _ s => s

theorem Topology.runOf_disciplined {t : Topology} (faultless : t.Faultless) (scope : Scope)
    (backend : Backend) : (t.vantage scope backend).Disciplined t (t.runOf scope backend) := by
  have kept := Plan.build_disciplined (v := t.vantage scope backend) faultless
  unfold runOf
  cases run : t.plan scope backend with
  | ok p s => exact (kept.ok Vantage.disciplined_start run).2
  | error e s => exact (kept.error Vantage.disciplined_start run).2

/-- The identity that a question is asked under. -/
def Query.identity? : Query → Option Identity
  | .remoteValue i _ => some i
  | .attachment i _ _ => some i
  | _ => none

/-- Nobody is asked under an identity in the unit's own scope. -/
theorem Vantage.Permitted.identity_scope {v : Vantage} {t : Topology} {past : List Exchange}
    {q : Query} (permitted : v.Permitted t past q) {i : Identity} (asked : q.identity? = some i) :
    i.scope ≠ v.caller := by
  cases permitted with
  | own => exact nomatch asked
  | shared => exact nomatch asked
  | foreign other identity =>
    cases asked
    rwa [identity.scope]
  | attached _ _ _ other _ identity =>
    cases asked
    rw [identity.scope]
    exact fun same => other (congrArg Scope.account same)

/-- In a valid topology every question of a unit is permitted when it is asked,
and none is asked under an identity in the unit's own scope. This holds of every
backend, and of a unit that cannot be planned as well. -/
theorem every_question_permitted {t : Topology} (valid : t.validate = .ok ()) (scope : Scope)
    (backend : Backend) :
    (∀ past e, past ++ [e] <+: (t.runOf scope backend).exchanges →
      (t.vantage scope backend).Permitted t past e.query) ∧
    ∀ e ∈ (t.runOf scope backend).exchanges, ∀ i, e.query.identity? = some i →
      i.scope ≠ scope := by
  have disciplined := Topology.runOf_disciplined (Topology.faultless_of_validate valid) scope
    backend
  refine ⟨fun past e asked => disciplined.permitted asked, ?_⟩
  intro e he i identity
  obtain ⟨past, asked⟩ := Run.asked_of_mem he
  exact (disciplined.permitted asked).identity_scope identity

/-- In the sample the owner of the gateway asks for the attachment of the other
account, with the id that it has read. -/
theorem every_question_permitted_sample :
    ∃ past i, past ++ [⟨.attachment i "id" "App-Core", .value "id"⟩] <+:
        (Topology.sample.runOf ⟨"Network", "us-east-1"⟩ (.fixed fun _ => .value "id")).exchanges ∧
      i.roleName = some "accel-DescribeTgwAttachRole-us-east-1" ∧
      i.scope ≠ ⟨"Network", "us-east-1"⟩ ∧
      (Topology.sample.vantage ⟨"Network", "us-east-1"⟩ (.fixed fun _ => .value "id")).Permitted
        .sample past (.attachment i "id" "App-Core") := by
  have fourth : (Topology.sample.runOf ⟨"Network", "us-east-1"⟩
      (.fixed fun _ => .value "id")).exchanges[3]? =
        some ⟨.attachment ⟨"Workload", "222222222222", "us-east-1",
          some "accel-DescribeTgwAttachRole-us-east-1"⟩ "id" "App-Core", .value "id"⟩ := by
    decide +kernel
  obtain ⟨bound, found⟩ := List.getElem?_eq_some_iff.mp fourth
  have asked := List.take_prefix 4 (Topology.sample.runOf ⟨"Network", "us-east-1"⟩
    (.fixed fun _ => .value "id")).exchanges
  rw [← List.take_append_getElem bound, found] at asked
  have permitted := every_question_permitted Topology.sample_valid ⟨"Network", "us-east-1"⟩
    (.fixed fun _ => .value "id")
  exact ⟨_, _, asked, rfl, permitted.2 _ (List.mem_of_getElem? fourth) _ rfl,
    permitted.1 _ _ asked⟩

end Interlink
