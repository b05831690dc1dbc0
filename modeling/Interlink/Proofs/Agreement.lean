import Interlink.Backend.Memory
import Interlink.Proofs.AttachmentIds
import Interlink.Proofs.MapIds

/-!
# Two units agree on an attachment

The unit that owns an attachment reads the attachment's id where it has published it,
and the unit that owns the gateway asks the provisioning interface for it, by name and
with the id of the gateway. Each has found out about the gateway in its own way: from
its own store, from a share, or from the store of another account. If all that is
published, shared and recorded of a gateway or of an attachment is one id
(`Snapshot.Coherent`), then the two units record the same ids
(`attachment_ids_agree`).

Coherence is about what there is: nothing need be published, shared or recorded at
all, and accounts may refuse their roles. A unit that does not find what it needs has
no map to compare.
-/

namespace Interlink

/-! ## What a memory answers -/

namespace Memory

variable {t : Topology} {scope owner : Scope} {memory : Memory} {i : Identity}
  {value? : Option String} {value : String}

/-- An identity that is answered is told what there is. -/
theorem of_answerFor (h : (memory.answerFor i value?).value? = some value) :
    value? = some value := by
  unfold answerFor at h
  split at h
  · exact nomatch h
  · rwa [Answer.value?_ofOption] at h

/-- What a unit reads is published. -/
theorem of_publishedIn {path : String}
    (h : (t.vantage scope memory.backend).publishedIn memory.answer owner path = some value) :
    memory.snapshot.value? owner path = some value := by
  unfold Vantage.publishedIn at h
  split at h
  · rwa [answer, Answer.value?_ofOption] at h
  · obtain ⟨id, -, h⟩ := Option.bind_eq_some_iff.mp h
    exact of_answerFor h

/-- What a unit finds in a share is shared. -/
theorem of_sharedBy {kind : ResourceKind} {name : String}
    (h : (t.vantage scope memory.backend).sharedBy memory.answer kind name owner = some value) :
    ∃ id, t.registry.accountId? owner.account = some id ∧
      memory.snapshot.share? kind name id owner.region = some value := by
  obtain ⟨id, member, h⟩ := Option.bind_eq_some_iff.mp h
  rw [answer, Answer.value?_ofOption] at h
  exact ⟨id, member, h⟩

end Memory

/-! ## Coherence -/

/-- An attachment is described by a topology. -/
def Topology.Describes (t : Topology) (d : Attachment) : Prop :=
  ∃ scope ds, t.attachments t.registry scope = .ok ds ∧ d ∈ ds

/-- Whatever a snapshot has of a gateway or of an attachment is its id. -/
structure Snapshot.Coherent (snapshot : Snapshot) (t : Topology) (gatewayId : Gateway → String)
    (attachmentId : Attachment → String) : Prop where
  /-- What is published of a gateway is its id. -/
  published : ∀ g ∈ t.network.gateways, ∀ id,
    snapshot.value? ⟨g.account, g.region⟩
      ((Published.transitGateway g.name).path t.settings.pathPrefix) = some id →
    id = gatewayId g
  /-- What the owner of a gateway shares of it is its id. -/
  shared : ∀ g ∈ t.network.gateways, ∀ account id,
    t.registry.accountId? g.account = some account →
    snapshot.share? .transitGateway g.name account g.region = some id → id = gatewayId g
  /-- What is published of an attachment is its id. -/
  attached : ∀ d, t.Describes d → ∀ id,
    snapshot.value? d.owner (d.published.path t.settings.pathPrefix) = some id →
    id = attachmentId d
  /-- The first record of an attachment on its gateway has its id. -/
  recorded : ∀ d, t.Describes d → ∀ g, t.gateway? d.gateway d.gatewayAccount = some g → ∀ id,
    snapshot.attachment? d.owner (gatewayId g) d.name = some id → id = attachmentId d

/-! ## What a map has recorded -/

namespace UnitMap

variable {t : Topology} {scope : Scope} {ds : List Attachment} {m : UnitMap} {s : Run}

/-- The attachments of a map are told apart by their places. -/
theorem Holds.eq_of_place {gateways : List String} {tables : List (String × String)}
    {as : List Attachment} (held : m.Holds scope gateways tables as) {d d' : Attachment}
    (hd : d ∈ as) (hd' : d' ∈ as) (same : d.place = d'.place) : d = d' := by
  obtain ⟨gateway, -, child, owner⟩ := AttachmentPlace.mk.inj same
  refine List.inj_on_of_nodup_map held.nodup_keys hd hd' ?_
  rw [Attachment.key, Attachment.key, gateway, child, owner]

/-- Attachments to one gateway are in one region. -/
theorem gateway_region_eq (faultless : t.Faultless)
    (described : t.attachments t.registry scope = .ok ds) {d d' : Attachment} (hd : d ∈ ds)
    (hd' : d' ∈ ds) (gateway : d.gateway = d'.gateway)
    (account : d.gatewayAccount = d'.gatewayAccount) : d.region = d'.region := by
  obtain ⟨g, found, region⟩ := (faultless.grounded described hd).gateway
  obtain ⟨g', found', region'⟩ := (faultless.grounded described hd').gateway
  rw [gateway, account, found'] at found
  cases found
  exact region.symm.trans region'

/-- Whether an attachment concerns a unit is a matter of its place. -/
theorem concerns_of_place {d d' : Attachment} (same : d.place = d'.place)
    (region : d.region = d'.region) : concerns scope d = concerns scope d' := by
  obtain ⟨-, account, -, owner⟩ := AttachmentPlace.mk.inj same
  rw [concerns, concerns, ownsGateway, ownsGateway, region, account, owner]

/-- The ids of an attachment in the map of a scope stand in a snapshot, each where the unit
looks for it. -/
structure FoundIn (snapshot : Snapshot) (t : Topology) (scope : Scope) (x : ResolvedAttachment) :
    Prop where
  gateway :
    snapshot.value? x.descriptor.gatewayScope
        ((Published.transitGateway x.descriptor.gateway).path t.settings.pathPrefix) =
          some x.gatewayId ∨
      x.descriptor.gatewayAccount ≠ scope.account ∧
        ∃ account, t.registry.accountId? x.descriptor.gatewayAccount = some account ∧
          snapshot.share? .transitGateway x.descriptor.gateway account x.descriptor.region =
            some x.gatewayId
  own : x.descriptor.owner = scope →
    snapshot.value? x.descriptor.owner (x.descriptor.published.path t.settings.pathPrefix) =
      some x.id
  foreign : x.descriptor.owner ≠ scope →
    snapshot.attachment? x.descriptor.owner x.gatewayId x.descriptor.name = some x.id

section Recorded

variable (valid : t.validate = .ok ())
  (plain : ∀ g ∈ t.network.gateways, ∀ name ∈ g.names, '_' ∉ name.toList ∧ '/' ∉ name.toList)
  (slashless : ∀ name ∈ t.childNames, '/' ∉ name.toList) {memory : Memory}
  (built : (build (t.vantage scope memory.backend) t).run {} = .ok m s) {key : String}
  {x : ResolvedAttachment} (found : m.attachments.get? key = some x)
include valid plain slashless built found

/-- What a unit records of an attachment is in the memory. -/
theorem foundIn_of_built : FoundIn memory.snapshot t scope x := by
  have faultless := Topology.faultless_of_validate valid
  obtain ⟨ds, described, held⟩ := build_holds built
  have listed := (List.mem_filter.mp (held.mem_of_found found)).1
  obtain ⟨-, traced, sourced⟩ :=
    (build_fills described (legible_of_plain faultless described plain)).ok
      (Vantage.traced_start _) built
  have steady : (t.vantage scope memory.backend).backend.Steady memory.answer s :=
    Backend.steady_fixed memory.answer s
  constructor
  case gateway =>
    rcases (sourced.attachments key x found).published_or_shared traced steady with
      published | ⟨shares, shared⟩
    · exact .inl (Memory.of_publishedIn published)
    · exact .inr ⟨(Vantage.looksInShare_iff.mp shares).1, Memory.of_sharedBy shared⟩
  case own =>
    intro own
    exact Memory.of_publishedIn ((sourced.own key x found own).publishedIn traced steady rfl)
  case foreign =>
    intro foreign
    obtain ⟨i, kept, asked⟩ := build_attests slashless built described found listed foreign
    have there : i.scope = x.descriptor.owner := (traced.identities _ _ kept).scope
    have recorded := Memory.of_answerFor (traced.answered steady asked)
    rwa [there] at recorded

/-- The ids that a unit records are those that a coherent snapshot has. -/
theorem ids_of_coherent {gatewayId : Gateway → String} {attachmentId : Attachment → String}
    (coherent : memory.snapshot.Coherent t gatewayId attachmentId) :
    (∃ g, t.gateway? x.descriptor.gateway x.descriptor.gatewayAccount = some g ∧
        x.gatewayId = gatewayId g) ∧ x.id = attachmentId x.descriptor := by
  have there := foundIn_of_built valid plain slashless built found
  obtain ⟨ds, described, held⟩ := build_holds built
  have listed := (List.mem_filter.mp (held.mem_of_found found)).1
  have describes : t.Describes x.descriptor := ⟨scope, ds, described, listed⟩
  obtain ⟨g, defined, region⟩ :=
    ((Topology.faultless_of_validate valid).grounded described listed).gateway
  obtain ⟨listed, name, account⟩ := Topology.gateway?_some defined
  have gateway : x.gatewayId = gatewayId g := by
    have ids := there.gateway
    rw [Attachment.gatewayScope, ← name, ← account, ← region] at ids
    rcases ids with published | ⟨-, id, member, shared⟩
    · exact coherent.published g listed _ published
    · exact coherent.shared g listed id _ member shared
  refine ⟨⟨g, defined, gateway⟩, ?_⟩
  by_cases own : x.descriptor.owner = scope
  · exact coherent.attached _ describes _ (there.own own)
  · have recorded := there.foreign own
    rw [gateway] at recorded
    exact coherent.recorded _ describes g defined _ recorded

end Recorded

end UnitMap

/-! ## Two units -/

/-- Two units that have recorded an attachment have recorded the same ids for it, whichever
of them owns the attachment or the gateway. -/
theorem attachment_ids_agree {t : Topology} (valid : t.validate = .ok ())
    (plain : ∀ g ∈ t.network.gateways, ∀ name ∈ g.names, '_' ∉ name.toList ∧ '/' ∉ name.toList)
    (slashless : ∀ name ∈ t.childNames, '/' ∉ name.toList) {memory : Memory}
    {gatewayId : Gateway → String} {attachmentId : Attachment → String}
    (coherent : memory.snapshot.Coherent t gatewayId attachmentId) {scope scope' : Scope}
    {m m' : UnitMap} {s s' : Run}
    (built : (UnitMap.build (t.vantage scope memory.backend) t).run {} = .ok m s)
    (built' : (UnitMap.build (t.vantage scope' memory.backend) t).run {} = .ok m' s')
    {key key' : String} {x x' : ResolvedAttachment} (found : m.attachments.get? key = some x)
    (found' : m'.attachments.get? key' = some x')
    (same : x.descriptor.place = x'.descriptor.place) :
    x.id = x'.id ∧ x.gatewayId = x'.gatewayId := by
  have faultless := Topology.faultless_of_validate valid
  obtain ⟨ds, described, held⟩ := UnitMap.build_holds built
  obtain ⟨ds', described', held'⟩ := UnitMap.build_holds built'
  obtain rfl := Except.ok.inj (described'.symm.trans (Topology.attachments_eq_ok described scope'))
  have recorded := held.mem_of_found found
  obtain ⟨listed, relevant⟩ := List.mem_filter.mp recorded
  obtain ⟨listed', -⟩ := List.mem_filter.mp (held'.mem_of_found found')
  obtain ⟨gateway, account, -, -⟩ := AttachmentPlace.mk.inj same
  have region := UnitMap.gateway_region_eq faultless described listed listed' gateway account
  -- the other unit's attachment concerns this unit as well, so its map has only one of them
  have descriptor : x.descriptor = x'.descriptor := by
    refine held.eq_of_place recorded (List.mem_filter.mpr ⟨listed', ?_⟩) same
    exact (UnitMap.concerns_of_place same region).symm.trans relevant
  obtain ⟨⟨g, there, gateway⟩, id⟩ :=
    UnitMap.ids_of_coherent valid plain slashless built found coherent
  obtain ⟨⟨g', there', gateway'⟩, id'⟩ :=
    UnitMap.ids_of_coherent valid plain slashless built' found' coherent
  rw [descriptor] at there id
  cases there.symm.trans there'
  exact ⟨id.trans id'.symm, gateway.trans gateway'.symm⟩

/-- A memory in which one gateway is published and shared, and its attachment published and
recorded. -/
def Memory.sample : Memory where
  snapshot :=
    let network : Scope := ⟨"Network", "us-east-1"⟩
    let workload : Scope := ⟨"Workload", "us-east-1"⟩
    let published := (((({} : Snapshot).publish network
      "/accel/network/transitGateways/Core/id" "tgw").publish network
      "/accel/network/transitGateways/Core/routeTables/hub/id" "hub").publish network
      "/accel/network/transitGateways/Core/routeTables/spokes/id" "spokes").publish workload
      "/accel/network/vpc/App/transitGatewayAttachment/App-Core/id" "attachment"
    (published.addShare ⟨.transitGateway, "Core", "111111111111", "us-east-1", "tgw"⟩).addAttachment
      ⟨"Workload", "us-east-1", "tgw", "App-Core", "attachment"⟩

theorem Memory.sample_coherent : Memory.sample.snapshot.Coherent .sample (fun _ => "tgw")
    fun _ => "attachment" := by
  have described : ∀ d, Topology.sample.Describes d →
      Memory.sample.snapshot.value? d.owner (d.published.path "accel") = some "attachment" ∧
        Memory.sample.snapshot.attachment? d.owner "tgw" d.name = some "attachment" := by
    rintro d ⟨scope, ds, described, hd⟩
    have here := Topology.attachments_eq_ok described ⟨"Network", "us-east-1"⟩
    have all : ∃ ds, Topology.sample.attachments Topology.sample.registry
        ⟨"Network", "us-east-1"⟩ = .ok ds ∧ ∀ d ∈ ds,
        Memory.sample.snapshot.value? d.owner (d.published.path "accel") = some "attachment" ∧
          Memory.sample.snapshot.attachment? d.owner "tgw" d.name = some "attachment" :=
      ⟨_, rfl, by decide +kernel⟩
    obtain ⟨ds', same, all⟩ := all
    obtain rfl := Except.ok.inj (here.symm.trans same)
    exact all d hd
  have gateway : ∀ g ∈ Topology.sample.network.gateways,
      Memory.sample.snapshot.value? ⟨g.account, g.region⟩
          ((Published.transitGateway g.name).path "accel") = some "tgw" ∧
        ∀ account ∈ Topology.sample.registry.accountId? g.account,
          Memory.sample.snapshot.share? .transitGateway g.name account g.region = some "tgw" := by
    decide +kernel
  exact
    { published := fun g hg id found => (Option.some.inj ((gateway g hg).1.symm.trans found)).symm
      shared := fun g hg account id member found =>
        (Option.some.inj (((gateway g hg).2 account member).symm.trans found)).symm
      attached := fun d hd id found => (Option.some.inj ((described d hd).1.symm.trans found)).symm
      recorded := fun d hd g _ id found =>
        (Option.some.inj ((described d hd).2.symm.trans found)).symm }

/-- In the sample the owner of the VPC reads the id of the attachment and finds the gateway in
a share, and the owner of the gateway asks for the attachment. -/
theorem attachment_ids_agree_sample :
    ∃ m s m' s' x x',
      (UnitMap.build (Topology.sample.vantage ⟨"Workload", "us-east-1"⟩ Memory.sample.backend)
        .sample).run {} = .ok m s ∧
      (UnitMap.build (Topology.sample.vantage ⟨"Network", "us-east-1"⟩ Memory.sample.backend)
        .sample).run {} = .ok m' s' ∧
      m.attachments.get? "Core_Workload_App" = some x ∧
      m'.attachments.get? "Core_Workload_App" = some x' ∧
      x.id = x'.id ∧ x.gatewayId = x'.gatewayId := by
  have recorded : ∀ scope ∈ ([⟨"Workload", "us-east-1"⟩, ⟨"Network", "us-east-1"⟩] : List Scope),
      (UnitMap.build (Topology.sample.vantage scope Memory.sample.backend) .sample).comesTo
        (fun m => (m.attachments.get? "Core_Workload_App").any fun x =>
          x.descriptor.place = ⟨"Core", "Network", "App", ⟨"Workload", "us-east-1"⟩⟩) = true := by
    decide +kernel
  obtain ⟨m, s, built, check⟩ := Lookup.exists_of_comesTo (recorded _ List.mem_cons_self)
  obtain ⟨m', s', built', check'⟩ :=
    Lookup.exists_of_comesTo (recorded _ (List.mem_cons_of_mem _ List.mem_cons_self))
  obtain ⟨x, found, there⟩ := Option.any_eq_true _ _ |>.mp check
  obtain ⟨x', found', there'⟩ := Option.any_eq_true _ _ |>.mp check'
  refine ⟨m, s, m', s', x, x', built, built', found, found', ?_⟩
  exact attachment_ids_agree Topology.sample_valid (by decide +kernel) (by decide +kernel)
    Memory.sample_coherent built built' found found'
    ((of_decide_eq_true there).trans (of_decide_eq_true there').symm)

end Interlink
