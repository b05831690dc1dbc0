import Interlink.Backend.Memory
import Interlink.Plan
import Interlink.Proofs.Decoding
import Interlink.Topology.Decode
import Interlink.Topology.Encode

/-!
# Topologies and snapshots are read back as they are written

Each type of the description is decoded member by member in the order in which it is
encoded, so its law is put together from those of its members. The placement of a VPC
is the exception: it is written among the VPC's own members and read from whatever
members are none of its fields, through a type with two optional members of its own
(`placementOf_written`).

So nothing is lost in writing, be the members written as they are described or
sorted, and a unit plans from what was read exactly what it plans from what was
written (`reading_undoes_writing`).
-/

namespace Interlink

namespace Decode

open Fields

/-! ## Members that are texts -/

theorem reads_text (name s : String) : (field name text).Reads [(name, some (.text s))] s :=
  reads_field readsBack_text s

theorem reads_texts (name : String) (ss : List String) :
    (listField name text).Reads [(name, some (.list (ss.map .text)))] ss :=
  reads_listField readsBack_text ss

theorem reads_optionText (name : String) (s : Option String) :
    (optionField name text).Reads [(name, s.map .text)] s :=
  reads_optionField readsBack_text (fun _ _ => nofun) s

/-! ## Accounts -/

theorem readsBack_account : ReadsBack account Encode.account :=
  readsBack_struct
    (fun a => (((reads_text "name" a.name).map _).seq (reads_text "id" a.id)).seq
      (reads_optionText "organizational_unit" a.organizationalUnit))
    (fun a => by simp only [Encode.account, Encode.optional_eq]; rfl) (by decide)

theorem readsBack_targets : ReadsBack targets Encode.targets :=
  readsBack_struct
    (fun t => (((reads_texts "accounts" t.accounts).map _).seq
      (reads_texts "organizational_units" t.organizationalUnits)).seq
      (reads_texts "excluded_accounts" t.excludedAccounts))
    (fun _ => rfl) (by decide)

/-! ## Gateways -/

theorem readsBack_routeTarget : ReadsBack routeTarget Encode.routeTarget :=
  readsBack_struct
    (fun t => (((reads_field (readsBack_alternative AttachmentKind.mem_all
        AttachmentKind.label_injective) t.kind).map _).seq (reads_text "name" t.name)).seq
      (reads_optionText "account" t.account))
    (fun t => by simp only [Encode.routeTarget, Encode.optional_eq]; rfl) (by decide)

theorem readsBack_staticRoute : ReadsBack staticRoute Encode.staticRoute :=
  readsBack_struct
    (fun r => ((((reads_optionText "destination_cidr_block" r.destinationCidrBlock).map _).seq
        (reads_optionText "destination_prefix_list" r.destinationPrefixList)).seq
        (reads_fieldD readsBack_bool r.blackhole)).seq
      (reads_optionField readsBack_routeTarget (fun _ _ => nofun) r.attachment))
    (fun r => by simp only [Encode.staticRoute, Encode.optional_eq]; rfl) (by decide)

theorem readsBack_gatewayRouteTable :
    ReadsBack gatewayRouteTable Encode.gatewayRouteTable :=
  readsBack_struct
    (fun t => ((reads_text "name" t.name).map _).seq
      (reads_listField readsBack_staticRoute t.routes))
    (fun _ => rfl) (by decide)

theorem readsBack_gateway : ReadsBack gateway Encode.gateway :=
  readsBack_struct
    (fun g => ((((reads_text "name" g.name).map _).seq (reads_text "account" g.account)).seq
        (reads_text "region" g.region)).seq
      (reads_listField readsBack_gatewayRouteTable g.routeTables))
    (fun _ => rfl) (by decide)

theorem readsBack_gatewayRef : ReadsBack gatewayRef Encode.gatewayRef :=
  readsBack_struct
    (fun g => ((reads_text "name" g.name).map _).seq (reads_text "account" g.account))
    (fun _ => rfl) (by decide)

/-! ## VPCs -/

theorem readsBack_vpcRoute : ReadsBack vpcRoute Encode.vpcRoute :=
  readsBack_struct
    (fun r => ((((((reads_text "name" r.name).map _).seq
        (reads_field (readsBack_alternative VpcRouteType.mem_all
          VpcRouteType.label_injective) r.type)).seq
        (reads_optionText "destination" r.destination)).seq
        (reads_optionText "destination_prefix_list" r.destinationPrefixList)).seq
        (reads_optionText "ipv6_destination" r.ipv6Destination)).seq
      (reads_optionText "target" r.target))
    (fun r => by simp only [Encode.vpcRoute, Encode.optional_eq]; rfl) (by decide)

theorem readsBack_vpcRouteTable : ReadsBack vpcRouteTable Encode.vpcRouteTable :=
  readsBack_struct
    (fun t => ((reads_text "name" t.name).map _).seq
      (reads_listField readsBack_vpcRoute t.routes))
    (fun _ => rfl) (by decide)

theorem readsBack_vpcAttachment : ReadsBack vpcAttachment Encode.vpcAttachment :=
  readsBack_struct
    (fun a => ((((reads_text "name" a.name).map _).seq
        (reads_field readsBack_gatewayRef a.gateway)).seq
        (reads_texts "route_table_associations" a.associations)).seq
      (reads_texts "route_table_propagations" a.propagations))
    (fun _ => rfl) (by decide)

/-! ### The placement of a VPC -/

/-- The member that a placement is written as. -/
def placementMember : Placement → String × Data
  | .single account => ("account", .text account)
  | .targets choice => ("deployment_targets", Encode.targets choice)

theorem placement_eq (p : Placement) : Encode.placement p = [placementMember p] := by
  cases p <;> rfl

theorem typedItems?_texts (depth : Nat) (ss : List String) :
    Document.typedItems? depth (ss.map .text) = some (ss.map .text) := by
  induction ss with
  | nil => rfl
  | cons s rest ih =>
    rw [List.map_cons, Document.typedItems?, ih]
    rfl

theorem typedMembers?_texts {depth : Nat} {ms : List (String × Document)}
    (typed : ∀ m ∈ ms, m.2.typed? depth = some m.2) :
    Document.typedMembers? depth (ms.map fun m => (.text m.1, m.2)) =
      some (ms.map fun m => (.text m.1, m.2)) := by
  induction ms with
  | nil => rfl
  | cons m rest ih =>
    obtain ⟨first, others⟩ := List.forall_mem_cons.mp typed
    rw [List.map_cons, Document.typedMembers?, ih others, first]
    rfl

/-- What a placement is written as has no word, and is less deep than it may be. -/
theorem typed?_placementMember {φ : Data → Data} (arranges : Data.Arranges φ) (p : Placement) :
    (Document.ofData (φ (placementMember p).2)).typed? memberDepth =
      some (.ofData (φ (placementMember p).2)) := by
  cases p with
  | single account =>
    rw [placementMember, arranges.text]
    rfl
  | targets choice =>
    have texts (ss : List String) (depth : Nat) :
        (Document.ofData (φ (.list (ss.map .text)))).typed? (depth + 1) =
          some (.ofData (φ (.list (ss.map .text)))) := by
      have written : Document.ofData (φ (.list (ss.map .text))) = .list (ss.map .text) := by
        rw [arranges.list, Document.ofData, Document.ofItems_eq, List.map_map, List.map_map]
        refine congrArg _ (List.map_congr_left fun s _ => ?_)
        rw [Function.comp_apply, Function.comp_apply, arranges.text, Document.ofData]
      rw [written, Document.typed?, typedItems?_texts]
      rfl
    have distinct : ([("accounts", Data.list (choice.accounts.map .text)),
        ("organizational_units", .list (choice.organizationalUnits.map .text)),
        ("excluded_accounts", .list (choice.excludedAccounts.map .text))].map (·.1)).Nodup := by
      simp
    obtain ⟨ms, arranged, perm⟩ := exists_arranged arranges distinct
    have typed : ∀ m ∈ ms, m.2.typed? 123 = some m.2 := by
      intro m hm
      have hm := perm.mem_iff.mp hm
      simp only [List.map_cons, List.map_nil, List.mem_cons, List.not_mem_nil, or_false] at hm
      rcases hm with rfl | rfl | rfl
      · exact texts choice.accounts 122
      · exact texts choice.organizationalUnits 122
      · exact texts choice.excludedAccounts 122
    have written : Document.ofData (φ (placementMember (.targets choice)).2) =
        Document.record (ms.map fun m => (.text m.1, m.2)) := arranged
    rw [written]
    show (Document.typedMembers? 123 _).map Document.record = _
    rw [typedMembers?_texts typed]
    rfl

/-- A placement is made of the member that it is written as. -/
theorem placementOf_written {φ : Data → Data} (arranges : Data.Arranges φ) (f : Format)
    (p : Placement) :
    placementOf f [((placementMember p).1, .ofData (φ (placementMember p).2))] = .ok p := by
  have typed : typedMembers [((placementMember p).1, .ofData (φ (placementMember p).2))] =
      .ok [((placementMember p).1, .ofData (φ (placementMember p).2))] := by
    simp only [typedMembers, typed?_placementMember arranges]
    rfl
  have fields (account : Option String) (choice : Option Targets) :
      (Prod.mk <$> optionField "account" text <*> optionField "deployment_targets" targets).Reads
        [("account", account.map .text), ("deployment_targets", choice.map Encode.targets)]
        (account, choice) :=
    ((reads_optionText "account" account).map _).seq
      (reads_optionField readsBack_targets (fun _ _ => nofun) choice)
  have distinct : ["account", "deployment_targets"].Nodup := by decide
  have chosen (account : Option String) (choice : Option Targets)
      (perm : [((placementMember p).1, Document.ofData (φ (placementMember p).2))].Perm
        (([("account", account.map .text),
          ("deployment_targets", choice.map Encode.targets)].flatMap Encode.bound).map
            fun m => (m.1, .ofData (φ m.2)))) :
      placementOf f [((placementMember p).1, .ofData (φ (placementMember p).2))] =
        (placement account choice).mapError fun misfit => ⟨[], misfit⟩ := by
    have read := ofMembers_ok ((fields account choice).read φ arranges f _
      (shows_of_perm distinct perm))
    have kept : (decide ((placementMember p).1 = "account" ∨
        (placementMember p).1 = "deployment_targets")) = true := by
      cases p <;> simp [placementMember]
    unfold placementOf
    rw [typed]
    simp only [bind, Except.bind, List.filter_cons, kept, if_true, List.filter_nil]
    rw [struct, read]
    rfl
  cases p with
  | single account => exact chosen (some account) none (.refl _)
  | targets choice => exact chosen none (some choice) (.refl _)

theorem readsBack_vpc : ReadsBack vpc Encode.vpc := by
  refine readsBack_structWith (fun v => placementMember v.placement) Vpc.placement
    (fun v placement => { v with placement })
    (fun v => ((((((reads_text "name" v.name).map _).seq (reads_text "region" v.region)).seq
        (reads_texts "cidrs" v.cidrs)).seq (reads_optionText "ipam_pool" v.ipamPool)).seq
        (reads_listField readsBack_vpcRouteTable v.routeTables)).seq
        (reads_listField readsBack_vpcAttachment v.attachments)|>.seq
      (reads_texts "resolver_rules" v.resolverRules)) ?whole ?written ?distinct ?new ?decoded
  case whole => exact fun _ => rfl
  case written =>
    intro v
    refine ⟨_, rfl, ?_⟩
    rw [placement_eq, Encode.optional_eq]
    exact (List.perm_middle : ([_, _] ++ placementMember v.placement :: _).Perm _)
  case distinct => decide
  case new =>
    intro v named
    have apart : ∀ name ∈ ["account", "deployment_targets"], name ∉ ["name", "region", "cidrs",
        "ipam_pool", "route_tables", "transit_gateway_attachments", "resolver_rules"] := by
      decide
    refine apart _ ?_ named
    cases v.placement <;> simp [placementMember]
  case decoded => exact fun φ arranges f v => placementOf_written arranges f v.placement

theorem readsBack_vpcPeering : ReadsBack vpcPeering Encode.vpcPeering :=
  readsBack_struct
    (fun p => (((reads_text "name" p.name).map _).seq
        (reads_field readsBack_text.list p.vpcs)).seq
      (reads_fieldD readsBack_text.sortedMap p.tags))
    (fun _ => rfl) (by decide)

/-! ## Everything else -/

theorem readsBack_prefixList : ReadsBack prefixList Encode.prefixList :=
  readsBack_struct
    (fun l => ((((reads_text "name" l.name).map _).seq
        (reads_field readsBack_text.list l.accounts)).seq
        (reads_field readsBack_text.list l.regions)).seq
      (reads_texts "entries" l.entries))
    (fun _ => rfl) (by decide)

theorem readsBack_gatewayPeeringSide :
    ReadsBack gatewayPeeringSide Encode.gatewayPeeringSide :=
  readsBack_struct
    (fun s => ((((reads_text "transit_gateway_name" s.gateway).map _).seq
        (reads_text "account" s.account)).seq (reads_text "region" s.region)).seq
      (reads_texts "route_table_associations" s.associations))
    (fun _ => rfl) (by decide)

theorem readsBack_gatewayPeering : ReadsBack gatewayPeering Encode.gatewayPeering :=
  readsBack_struct
    (fun p => (((reads_text "name" p.name).map _).seq
        (reads_field readsBack_gatewayPeeringSide p.requester)).seq
      (reads_field readsBack_gatewayPeeringSide p.accepter))
    (fun _ => rfl) (by decide)

theorem readsBack_vpnConnection : ReadsBack vpnConnection Encode.vpnConnection :=
  readsBack_struct
    (fun v => ((((reads_text "name" v.name).map _).seq
        (reads_text "transit_gateway" v.gateway)).seq
        (reads_texts "route_table_associations" v.associations)).seq
      (reads_texts "route_table_propagations" v.propagations))
    (fun _ => rfl) (by decide)

theorem readsBack_customerGateway : ReadsBack customerGateway Encode.customerGateway :=
  readsBack_struct
    (fun g => ((((reads_text "name" g.name).map _).seq (reads_text "account" g.account)).seq
        (reads_text "region" g.region)).seq
      (reads_listField readsBack_vpnConnection g.vpnConnections))
    (fun _ => rfl) (by decide)

theorem readsBack_directConnectAssociation :
    ReadsBack directConnectAssociation Encode.directConnectAssociation :=
  readsBack_struct
    (fun a => (((((reads_text "name" a.gateway.name).map _).seq
        (reads_text "account" a.gateway.account)).map _).seq
        (reads_texts "route_table_associations" a.associations)).seq
      (reads_texts "route_table_propagations" a.propagations))
    (fun _ => rfl) (by decide)

theorem readsBack_directConnectGateway :
    ReadsBack directConnectGateway Encode.directConnectGateway :=
  readsBack_struct
    (fun g => (((reads_text "name" g.name).map _).seq (reads_text "account" g.account)).seq
      (reads_listField readsBack_directConnectAssociation g.associations))
    (fun _ => rfl) (by decide)

theorem readsBack_resolverRule : ReadsBack resolverRule Encode.resolverRule :=
  readsBack_struct
    (fun r => (((reads_text "name" r.name).map _).seq (reads_text "account" r.account)).seq
      (reads_text "region" r.region))
    (fun _ => rfl) (by decide)

theorem readsBack_externalEdges : ReadsBack externalEdges Encode.externalEdges :=
  readsBack_struct
    (fun e => ((reads_texts "associations" e.associations).map _).seq
      (reads_texts "propagations" e.propagations))
    (fun _ => rfl) (by decide)

/-! ## The whole -/

theorem readsBack_network : ReadsBack network Encode.network :=
  readsBack_struct
    (fun n => (((((((((reads_listField readsBack_gateway n.gateways).map _).seq
        (reads_listField readsBack_vpc n.vpcs)).seq
        (reads_listField readsBack_vpcPeering n.vpcPeerings)).seq
        (reads_listField readsBack_prefixList n.prefixLists)).seq
        (reads_listField readsBack_gatewayPeering n.gatewayPeerings)).seq
        (reads_listField readsBack_customerGateway n.customerGateways)).seq
        (reads_listField readsBack_directConnectGateway n.directConnectGateways)).seq
        (reads_listField readsBack_resolverRule n.resolverRules)).seq
      (reads_fieldD readsBack_externalEdges n.external))
    (fun _ => rfl) (by decide)

theorem readsBack_settings : ReadsBack settings Encode.settings :=
  readsBack_struct
    (fun s => ((reads_text "home_region" s.homeRegion).map _).seq
      (reads_fieldD readsBack_text s.pathPrefix))
    (fun _ => rfl) (by decide)

/-- Topologies are read back as they are written. -/
theorem readsBack_topology : ReadsBack topology Encode.topology :=
  readsBack_struct
    (fun t => (((reads_field readsBack_settings t.settings).map _).seq
        (reads_field readsBack_account.list t.accounts)).seq
      (reads_fieldD readsBack_network t.network))
    (fun _ => rfl) (by decide)

/-! ## Snapshots -/

theorem readsBack_share : ReadsBack share Encode.share :=
  readsBack_struct
    (fun s => (((((reads_field (readsBack_alternative ResourceKind.mem_all
        ResourceKind.label_injective) s.kind).map _).seq (reads_text "name" s.name)).seq
        (reads_text "owner_account_id" s.ownerId)).seq (reads_text "region" s.region)).seq
      (reads_text "id" s.id))
    (fun _ => rfl) (by decide)

theorem readsBack_attachmentRecord : ReadsBack attachmentRecord Encode.attachmentRecord :=
  readsBack_struct
    (fun a => (((((reads_text "account" a.account).map _).seq (reads_text "region" a.region)).seq
        (reads_text "gateway_id" a.gatewayId)).seq (reads_text "name" a.name)).seq
      (reads_text "id" a.id))
    (fun _ => rfl) (by decide)

/-- Snapshots are read back as they are written. -/
theorem readsBack_snapshot : ReadsBack snapshot Encode.snapshot :=
  readsBack_struct
    (fun s => (((reads_fieldD readsBack_text.sortedMap.sortedMap s.values).map _).seq
        (reads_listField readsBack_share s.shares)).seq
      (reads_listField readsBack_attachmentRecord s.attachments))
    (fun _ => rfl) (by decide)

end Decode

/-- What is read of a topology and of a memory's snapshot, each as data with sorted members. -/
def reloaded (f : Format) (t : Topology) (m : Memory) : Decoded (Topology × Memory) := do
  let topology ← Decode.topology f (.ofData (Encode.topology t).sorted)
  let snapshot ← Decode.snapshot f (.ofData (Encode.snapshot m.snapshot).sorted)
  pure (topology, { m with snapshot })

/-- Every topology and every snapshot is read back from its data, as it is described or with
sorted members, so that no plan changes when both are written and loaded again. -/
theorem reading_undoes_writing (f : Format) :
    (∀ t, Decode.topology f (.ofData (Encode.topology t)) = .ok t ∧
      Decode.topology f (.ofData (Encode.topology t).sorted) = .ok t) ∧
    (∀ s, Decode.snapshot f (.ofData (Encode.snapshot s)) = .ok s ∧
      Decode.snapshot f (.ofData (Encode.snapshot s).sorted) = .ok s) ∧
    ∀ t m scope, (reloaded f t m).map (fun r => r.1.plan scope r.2.backend) =
      .ok (t.plan scope m.backend) := by
  have topology (t : Topology) :
      Decode.topology f (.ofData (Encode.topology t).sorted) = .ok t :=
    Decode.readsBack_topology _ Data.arranges_sorted f t
  have snapshot (s : Snapshot) :
      Decode.snapshot f (.ofData (Encode.snapshot s).sorted) = .ok s :=
    Decode.readsBack_snapshot _ Data.arranges_sorted f s
  refine ⟨fun t => ⟨Decode.readsBack_topology _ Data.arranges_id f t, topology t⟩,
    fun s => ⟨Decode.readsBack_snapshot _ Data.arranges_id f s, snapshot s⟩, fun t m scope => ?_⟩
  rw [reloaded, topology, snapshot]
  rfl

end Interlink
