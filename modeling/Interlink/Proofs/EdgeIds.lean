import Interlink.Proofs.Edges
import Interlink.Proofs.MapIds

/-!
# Whose ids an edge carries

An edge carries the id of an attachment and that of a route table, and both were
read off the map of the unit by key (`UnitMap.Draws`). What the map holds has
been obtained for what its keys name, and what has been obtained is what a
steady backend publishes or shares. So an edge carries the ids of what it
connects, and the summary of its attachment has the id of the gateway
(`edges_carry_published_ids`).
-/

namespace Interlink

/-! ## Edges of a map -/

namespace UnitMap

variable {m : UnitMap} {external : EdgeKeys} {kind : EdgeKind} {key table : String}
  {a : ResolvedAttachment} {e : Edge} {noted noted' : EdgeKeys}

/-- An edge has been drawn from an attachment of the unit to a route table that
the attachment names, with the ids that stand in the map. -/
structure Draws (m : UnitMap) (e : Edge) (a : ResolvedAttachment) : Prop where
  owned : (e.attachmentKey, a) ∈ m.owned
  attachmentId : e.attachmentId = a.id
  named : e.routeTable ∈ a.descriptor.associations ++ a.descriptor.propagations
  routeTableId : m.routeTableId? a.descriptor.region a.descriptor.gateway e.routeTable =
    some e.routeTableId

theorem edge_draws (own : (key, a) ∈ m.owned)
    (named : table ∈ a.descriptor.associations ++ a.descriptor.propagations)
    (h : m.edge kind key table = .ok e) : m.Draws e a := by
  obtain ⟨a', id, found, tableId, rfl⟩ := edge_ok h
  obtain rfl : a' = a := Option.some.inj
    (found.symm.trans (SortedMap.mem_entries.mp (List.mem_filter.mp own).1))
  exact ⟨own, rfl, named, tableId⟩

theorem planEdge_draws {batch : EdgeBatch} (own : (key, a) ∈ m.owned)
    (named : table ∈ a.descriptor.associations ++ a.descriptor.propagations)
    (run : (m.planEdge external kind key table).run noted = .ok batch noted') :
    ∀ e ∈ batch.edges, m.Draws e a := by
  rcases planEdge_ok run with ⟨-, rfl⟩ | ⟨-, e, made, rfl⟩
  · exact fun _ he => nomatch he
  · intro e' he'
    rw [List.mem_singleton.mp he']
    exact edge_draws own named made

theorem planAttachments_draws {batch : EdgeBatch}
    (run : (m.planAttachments external kind m.owned).run noted = .ok batch noted') :
    ∀ e ∈ batch.edges, ∃ a, m.Draws e a := by
  refine planAttachments_gathers (P := fun _ _ batch _ => ∀ e ∈ batch.edges, ∃ a, m.Draws e a)
    (fun _ _ he => nomatch he) (fun first others => List.forall_mem_append.mpr ⟨first, others⟩)
    ?_ run
  intro x hx table named _ _ _ one e he
  exact ⟨x.2, planEdge_draws hx (tables_subset x.2.descriptor kind named) one e he⟩

end UnitMap

/-- Every edge of a plan has been drawn from the map of its unit. -/
theorem Plan.edges_drawn {m : UnitMap} {t : Topology} {graph : EdgeGraph}
    (planned : edgesOf m t = .ok graph) :
    (∀ e ∈ graph.associations.edges, ∃ a, m.Draws e a) ∧
      ∀ e ∈ graph.propagations.edges, ∃ a, m.Draws e a := by
  obtain ⟨between, noted, one, other⟩ := edgesOf_ok planned
  exact ⟨UnitMap.planAttachments_draws one, UnitMap.planAttachments_draws other⟩

/-! ## Ids of a plan -/

/-- Where keys do not repeat, an element is the only one with its key. -/
theorem filter_key_eq {α κ : Type} [BEq κ] [LawfulBEq κ] {key : α → κ} {a : α} :
    ∀ {as : List α}, (as.map key).Nodup → a ∈ as → as.filter (key · == key a) = [a]
  | b :: rest, distinct, ha => by
    obtain ⟨new, distinct⟩ := List.nodup_cons.mp distinct
    have others : key b = key a → rest.filter (key · == key a) = [] := by
      intro same
      refine List.filter_eq_nil_iff.mpr fun c hc equal => new ?_
      exact List.mem_map.mpr ⟨c, hc, (beq_iff_eq.mp equal).trans same.symm⟩
    rcases List.mem_cons.mp ha with rfl | ha
    · rw [List.filter_cons, if_pos (beq_self_eq_true _), others rfl]
    · have other : ¬ (key b == key a) = true := fun same =>
        new (beq_iff_eq.mp same ▸ List.mem_map_of_mem ha)
      rw [List.filter_cons, if_neg other, filter_key_eq distinct ha]

theorem Plan.nodup_summaries (m : UnitMap) : ((summaries m).map (·.key)).Nodup := by
  rw [summaries, List.map_map]
  exact m.attachments.nodup_keys

/-- An attachment of a map has one summary. -/
theorem Plan.summaries_eq {m : UnitMap} {key : String} {a : ResolvedAttachment}
    (there : (key, a) ∈ m.attachments.entries) :
    (summaries m).filter (·.key == key) =
      [⟨key, a.id, a.gatewayId, a.descriptor.kind, a.descriptor.owner⟩] := by
  have listed : (⟨key, a.id, a.gatewayId, a.descriptor.kind, a.descriptor.owner⟩ :
      AttachmentSummary) ∈ summaries m := List.mem_map.mpr ⟨(key, a), there, rfl⟩
  exact filter_key_eq (nodup_summaries m) listed

/-- Of the attachments that a unit owns each has a key of its own. -/
theorem UnitMap.Holds.owned_eq {m : UnitMap} {scope : Scope} {gateways : List String}
    {tables : List (String × String)} {ds : List Attachment}
    (held : m.Holds scope gateways tables (ds.filter (concerns scope)))
    (region : ∀ d ∈ ds, d.owner.region = d.region) {d : Attachment}
    (hd : d ∈ ds.filter (·.owner == scope)) :
    ds.filter (fun d' => d'.owner == scope && d'.key == d.key) = [d] := by
  have distinct : ((ds.filter (·.owner == scope)).map Attachment.key).Nodup := by
    rw [← filter_concerns region]
    exact held.nodup_keys.sublist (List.filter_sublist.map Attachment.key)
  have only := filter_key_eq distinct hd
  rw [List.filter_filter] at only
  rw [← only]
  exact List.filter_congr fun d' _ => Bool.and_comm ..

/-- An edge carries the ids of an attachment of its unit, of the route table that
it leads to and, in the summary of the attachment, of the gateway. -/
structure Edge.CarriesIds (e : Edge) (v : Vantage) (answer : Query → Answer) (p : Plan)
    (ds : List Attachment) (d : Attachment) : Prop where
  /-- The unit owns one attachment of the key. -/
  attachment : ds.filter (fun d => d.owner == v.caller && d.key == e.attachmentKey) = [d]
  /-- The id of the attachment is the one that the unit publishes. -/
  attachmentId : v.publishedIn answer v.caller
    ((Published.attachment d.kind d.child d.name).path v.pathPrefix) = some e.attachmentId
  /-- The id of the route table is the one that the gateway's owner publishes. -/
  routeTableId : v.publishedIn answer d.gatewayScope
    ((Published.transitGatewayRouteTable d.gateway e.routeTable).path v.pathPrefix) =
      some e.routeTableId
  /-- The id of the gateway is the one that its owner publishes or shares. -/
  summary : ∃ a, p.attachments.filter (·.key == e.attachmentKey) = [a] ∧
    a.id = e.attachmentId ∧
    (v.publishedIn answer d.gatewayScope
        ((Published.transitGateway d.gateway).path v.pathPrefix) = some a.gatewayId ∨
      d.gatewayAccount ≠ v.caller.account ∧
        v.sharedBy answer .transitGateway d.gateway d.gatewayScope = some a.gatewayId)

namespace UnitMap

section Drawn

variable {v : Vantage} {t : Topology} {m : UnitMap} {ds : List Attachment} {s : Run} {e : Edge}
  {a : ResolvedAttachment} {answer : Query → Answer} {keys : List String}
  {tableKeys : List (String × String)}

/-- An attachment that the map of a unit holds as the unit's own is described as
such, under its own key. -/
theorem Holds.of_owned (held : m.Holds v.caller keys tableKeys (ds.filter (concerns v.caller)))
    (region : ∀ d ∈ ds, d.owner.region = d.region) {key : String}
    (own : (key, a) ∈ m.owned) :
    m.attachments.get? key = some a ∧ a.descriptor.key = key ∧
      a.descriptor ∈ ds.filter (·.owner == v.caller) :=
  ⟨SortedMap.mem_entries.mp (List.mem_filter.mp own).1, held.keyed (key, a) own,
    (held.owned region).subset (List.mem_map_of_mem own)⟩

variable {gs : List GatewayRef} {ts : List (GatewayRef × String)}
  (sourced : Sourced v gs ts m s) (traced : v.Traced s) (steady : v.backend.Steady answer s)
include sourced traced steady

theorem Sourced.attachmentId {key : String} (found : m.attachments.get? key = some a)
    (own : a.descriptor.owner = v.caller) :
    v.publishedIn answer v.caller ((Published.attachment a.descriptor.kind a.descriptor.child
      a.descriptor.name).path v.pathPrefix) = some a.id := by
  have obtained := sourced.own key a found own
  rw [own] at obtained
  exact obtained.publishedIn traced steady rfl

theorem Sourced.routeTableId {r : GatewayRef × String} (hr : r ∈ ts) {id : String}
    (found : m.routeTableId? v.caller.region r.1.name r.2 = some id) :
    v.publishedIn answer ⟨r.1.account, v.caller.region⟩
      ((Published.transitGatewayRouteTable r.1.name r.2).path v.pathPrefix) = some id :=
  (sourced.tables r hr id found).publishedIn traced steady rfl

theorem Sourced.gatewayId {key : String} (found : m.attachments.get? key = some a) :
    v.publishedIn answer a.descriptor.gatewayScope
        ((Published.transitGateway a.descriptor.gateway).path v.pathPrefix) = some a.gatewayId ∨
      a.descriptor.gatewayAccount ≠ v.caller.account ∧
        v.sharedBy answer .transitGateway a.descriptor.gateway a.descriptor.gatewayScope =
          some a.gatewayId := by
  rcases (sourced.attachments key a found).published_or_shared traced steady with
    published | ⟨shares, shared⟩
  · exact .inl published
  · exact .inr ⟨(Vantage.looksInShare_iff.mp shares).1, shared⟩

omit sourced in
/-- An edge that was drawn from a map with sourced ids carries the right ones. -/
theorem Draws.carriesIds {p : Plan} (draws : m.Draws e a) (faultless : t.Faultless)
    (described : t.attachments t.registry v.caller = .ok ds)
    (held : m.Holds v.caller keys tableKeys (ds.filter (concerns v.caller)))
    (sourced : Sourced v (recordedGateways t v.caller ds) (recordedTables t v.caller ds) m s)
    (summaries : p.attachments = Plan.summaries m) : e.CarriesIds v answer p ds a.descriptor := by
  have region : ∀ d ∈ ds, d.owner.region = d.region :=
    fun d hd => (faultless.grounded described hd).region
  obtain ⟨found, keyed, mine⟩ := held.of_owned region draws.owned
  obtain ⟨listed, owner⟩ := List.mem_filter.mp mine
  have own : a.descriptor.owner = v.caller := beq_iff_eq.mp owner
  have here : a.descriptor.region = v.caller.region := by rw [← region _ listed, own]
  refine ⟨?_, ?_, ?_, ?_⟩
  · rw [← keyed]
    exact held.owned_eq region mine
  · rw [draws.attachmentId]
    exact sourced.attachmentId traced steady found own
  · have recorded := table_recorded listed own (faultless.grounded described listed)
      (faultless.linked described listed) draws.named
    have id := draws.routeTableId
    rw [here] at id
    rw [Attachment.gatewayScope, here]
    exact sourced.routeTableId traced steady recorded id
  · have summary := Plan.summaries_eq (List.mem_filter.mp draws.owned).1
    rw [← summaries] at summary
    exact ⟨_, summary, draws.attachmentId.symm, sourced.gatewayId traced steady found⟩

end Drawn

end UnitMap

/-- Every edge of a plan carries the ids of what it connects. In a valid topology
whose gateways, with their accounts and route tables, have names without
underscores and slashes, and with a backend whose answers do not change during
the run, the unit owns one attachment with the key of the edge; the edge has the
id that the unit publishes of this attachment and the id that the owner of the
gateway publishes of the route table; and the summary of the attachment has the
id of the gateway, as its owner publishes it or, in another account, shares it. -/
theorem edges_carry_published_ids {t : Topology} (valid : t.validate = .ok ())
    (plain : ∀ g ∈ t.network.gateways, ∀ name ∈ g.names, '_' ∉ name.toList ∧ '/' ∉ name.toList)
    {scope : Scope} {backend : Backend} {answer : Query → Answer} {p : Plan} {s : Run}
    (planned : t.plan scope backend = .ok p s) (steady : backend.Steady answer s) :
    ∃ ds, t.attachments t.registry scope = .ok ds ∧
      ∀ kind, ∀ e ∈ p.edges kind, ∃ d, e.CarriesIds (t.vantage scope backend) answer p ds d := by
  have faultless := Topology.faultless_of_validate valid
  obtain ⟨m, s₁, graph, routes, peering, s₂, rules, mapped, drawn, -, built, associated, rfl⟩ :=
    Plan.build_ok planned
  have continues := (PeeringPlan.continues built).trans (RuleAssociation.continues associated)
  have steady : backend.Steady answer s₁ :=
    fun past e asked => steady past e (asked.trans continues.exchanges)
  obtain ⟨ds, described, held⟩ := UnitMap.build_holds mapped
  have legible := UnitMap.legible_of_plain faultless described plain
  obtain ⟨-, traced, sourced⟩ :=
    (UnitMap.build_fills described legible).ok (Vantage.traced_start _) mapped
  obtain ⟨associations, propagations⟩ := Plan.edges_drawn drawn
  refine ⟨ds, described, fun kind e he => ?_⟩
  obtain ⟨a, draws⟩ : ∃ a, m.Draws e a := by
    cases kind with
    | association => exact associations e he
    | propagation => exact propagations e he
  exact ⟨a.descriptor, draws.carriesIds traced steady faultless described held sourced rfl⟩

/-- In the sample the unit of the VPC plans an association and a propagation. The
gateway is found in the share of its owner, and its route tables are read in the
owner's scope. -/
theorem edges_carry_published_ids_sample :
    ∃ p s ds, Topology.sample.plan ⟨"Workload", "us-east-1"⟩ (.fixed ownOrShared) = .ok p s ∧
      Topology.sample.attachments Topology.sample.registry ⟨"Workload", "us-east-1"⟩ = .ok ds ∧
      (p.edges .association).map (fun e => (e.attachmentKey, e.routeTable)) =
        [("Core_Workload_App", "spokes")] ∧
      p.attachments.map (·.gatewayId) = ["shared"] ∧
      ∀ kind, ∀ e ∈ p.edges kind, ∃ d, e.CarriesIds
        (Topology.sample.vantage ⟨"Workload", "us-east-1"⟩ (.fixed ownOrShared)) ownOrShared p ds
          d := by
  have built : (Plan.build (Topology.sample.vantage ⟨"Workload", "us-east-1"⟩
      (.fixed ownOrShared)) .sample).comesTo (fun p => decide
        ((p.edges .association).map (fun e => (e.attachmentKey, e.routeTable)) =
            [("Core_Workload_App", "spokes")] ∧
          p.attachments.map (·.gatewayId) = ["shared"])) = true := by
    decide +kernel
  obtain ⟨p, s, planned, check⟩ := Lookup.exists_of_comesTo built
  obtain ⟨edges, gateways⟩ := of_decide_eq_true check
  obtain ⟨ds, described, carried⟩ := edges_carry_published_ids Topology.sample_valid
    (by decide +kernel) planned (Backend.steady_fixed ownOrShared s)
  exact ⟨p, s, ds, planned, described, edges, gateways, carried⟩

end Interlink
