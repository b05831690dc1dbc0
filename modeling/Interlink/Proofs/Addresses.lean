import Interlink.Proofs.Agreement

/-!
# Where the id of an attachment is looked up

An attachment is told from another by its gateway, with the gateway's account, its
child and its owner (`Attachment.place`). The places where its id is looked up know
less. The owner publishes it under a path that has the child and the name of the
attachment, but not the gateway; the provisioning interface is asked with the gateway
and the name, but without the child. Names are the operator's, and validation looks
at those of VPN connections and of peerings only.

`lookups_coincide_iff` says for which attachments of a valid topology the lookups
coincide, and what comes of it: their owner records one id for both. What is left is
two attachments of one VPC, of one name, to different gateways; a Direct Connect
gateway with several gateways of one owner; and, in the account of the gateway,
attachments of one name of different VPCs.
-/

namespace Interlink

namespace Attachment

/-- Two attachments of one owner that are published at one path. -/
inductive SharesPath (a b : Attachment) : Prop
  /-- They are those of one Direct Connect gateway. -/
  | directConnect (kind : a.kind = .directConnect) (kind' : b.kind = .directConnect)
      (child : a.child = b.child)
  /-- They are those of VPCs, and the names of VPC and attachment run together. -/
  | vpc (kind : a.kind = .vpc) (kind' : b.kind = .vpc)
      (names : a.child ++ "/transitGatewayAttachment/" ++ a.name =
        b.child ++ "/transitGatewayAttachment/" ++ b.name)

end Attachment

namespace Topology

variable {t : Topology} {accounts : Registry} {scope : Scope} {ds : List Attachment}
  {a b : Attachment}

/-! ## Names -/

/-- Only the attachment of a VPC has a name of its own. -/
theorem name_of_described (described : t.attachments accounts scope = .ok ds) (ha : a ∈ ds)
    (other : a.kind ≠ .vpc) : a.name = a.child := by
  cases workedOut_of_described described ha with
  | vpc _ _ _ made =>
    obtain ⟨g, -, h⟩ := requireGateway_bind_ok made
    split at h
    · cases h
      exact absurd rfl other
    · exact nomatch h
  | vpn _ _ made =>
    obtain ⟨g, -, h⟩ := requireGateway_bind_ok made
    cases h
    rfl
  | directConnect _ _ made =>
    obtain ⟨g, -, h⟩ := requireGateway_bind_ok made
    cases h
    rfl
  | peering _ _ made =>
    obtain ⟨g, -, h⟩ := requireGateway_bind_ok made
    cases h
    rfl

/-- The attachment of a VPN connection is that of one in the description. -/
theorem vpn_of_described (described : t.attachments accounts scope = .ok ds) (ha : a ∈ ds)
    (kind : a.kind = .vpn) :
    ∃ c ∈ t.network.customerGateways, ∃ v ∈ c.vpnConnections,
      a.place = ⟨v.gateway, c.account, v.name, ⟨c.account, c.region⟩⟩ := by
  cases workedOut_of_described described ha with
  | vpc _ _ _ made =>
    obtain ⟨g, -, h⟩ := requireGateway_bind_ok made
    split at h
    · cases h
      exact nomatch kind
    · exact nomatch h
  | @vpn c v defined connected made =>
    obtain ⟨g, found, h⟩ := requireGateway_bind_ok made
    obtain ⟨-, name, account⟩ := gateway?_some found
    cases h
    exact ⟨c, defined, v, connected, by rw [Attachment.place, name, account]⟩
  | directConnect _ _ made =>
    obtain ⟨g, -, h⟩ := requireGateway_bind_ok made
    cases h
    exact nomatch kind
  | peering _ _ made =>
    obtain ⟨g, -, h⟩ := requireGateway_bind_ok made
    cases h
    exact nomatch kind

/-- VPN connections of one name and one owner have one place. -/
theorem Faultless.vpn_place (faultless : t.Faultless)
    (described : t.attachments accounts scope = .ok ds) (ha : a ∈ ds) (hb : b ∈ ds)
    (kind : a.kind = .vpn) (kind' : b.kind = .vpn) (owner : a.owner = b.owner)
    (child : a.child = b.child) : a.place = b.place := by
  obtain ⟨c, hc, v, hv, there⟩ := vpn_of_described described ha kind
  obtain ⟨c', hc', v', hv', there'⟩ := vpn_of_described described hb kind'
  obtain ⟨-, -, name, scope⟩ := AttachmentPlace.mk.inj there
  obtain ⟨-, -, name', scope'⟩ := AttachmentPlace.mk.inj there'
  have account : c.account = c'.account :=
    congrArg Scope.account (scope.symm.trans (owner.trans scope'))
  obtain ⟨rfl, rfl⟩ := faultless.vpn_eq hc hv hc' hv' (name.symm.trans (child.trans name')) account
  exact there.trans there'.symm

/-! ## Paths -/

/-- A text that stands on both sides of another one is determined by the whole. -/
theorem around_injective {x y middle : String} (same : x ++ middle ++ x = y ++ middle ++ y) :
    x = y := by
  have texts := congrArg String.toList same
  simp only [String.toList_append, List.append_assoc] at texts
  have lengths := congrArg List.length texts
  simp only [List.length_append] at lengths
  exact String.toList_inj.mp (List.append_inj texts (by omega)).1

/-- Two attachments of one owner, not at one place, are published at one path if and only if
they are those of a Direct Connect gateway, or of VPCs whose names run together. -/
theorem Faultless.path_eq_iff (faultless : t.Faultless)
    (described : t.attachments accounts scope = .ok ds) (ha : a ∈ ds) (hb : b ∈ ds)
    (differ : a.place ≠ b.place) (single : ¬(a.kind = .peering ∧ b.kind = .peering))
    (owner : a.owner = b.owner) (pathPrefix : String) :
    a.published.path pathPrefix = b.published.path pathPrefix ↔ a.SharesPath b := by
  rw [Attachment.published, Attachment.published, Published.path_attachment_eq_iff]
  constructor
  · rintro ⟨kind, names⟩
    by_cases vpc : a.kind = .vpc
    · exact .vpc vpc (kind ▸ vpc) names
    · rw [name_of_described described ha vpc,
        name_of_described described hb fun vpc' => vpc (kind.trans vpc')] at names
      have child := around_injective names
      cases sort : a.kind with
      | vpc => exact absurd sort vpc
      | vpn =>
        exact absurd (faultless.vpn_place described ha hb sort (kind ▸ sort) owner child) differ
      | directConnect => exact .directConnect sort (kind ▸ sort) child
      | peering => exact absurd ⟨sort, kind ▸ sort⟩ single
  · rintro (⟨kind, kind', child⟩ | ⟨kind, kind', names⟩)
    · rw [name_of_described described ha (by rw [kind]; exact nofun),
        name_of_described described hb (by rw [kind']; exact nofun), child]
      exact ⟨kind.trans kind'.symm, rfl⟩
    · exact ⟨kind.trans kind'.symm, names⟩

end Topology

/-! ## Maps -/

namespace UnitMap

variable {m : UnitMap} {s : Run} {key key' : String} {x y : ResolvedAttachment}

/-- A unit records one id for its attachments that are published at one path. -/
theorem own_id_eq {v : Vantage} {t : Topology} (built : (build v t).run {} = .ok m s)
    (found : m.attachments.get? key = some x) (found' : m.attachments.get? key' = some y)
    (own : x.descriptor.owner = v.caller) (own' : y.descriptor.owner = v.caller)
    (path : x.descriptor.published.path v.pathPrefix = y.descriptor.published.path v.pathPrefix) :
    x.id = y.id := by
  have known := build_keyed built key x found
  have known' := build_keyed built key' y found'
  rw [Vantage.attachmentKey_own own, own, path] at known
  rw [Vantage.attachmentKey_own own', own'] at known'
  exact Option.some.inj (known.symm.trans known')

/-- The unit of a gateway records one id for attachments to it that have one name and one other
owner. -/
theorem foreign_id_eq {t : Topology} (valid : t.validate = .ok ())
    (plain : ∀ g ∈ t.network.gateways, ∀ name ∈ g.names, '_' ∉ name.toList ∧ '/' ∉ name.toList)
    (slashless : ∀ name ∈ t.childNames, '/' ∉ name.toList) {memory : Memory} {scope : Scope}
    (built : (build (t.vantage scope memory.backend) t).run {} = .ok m s)
    (found : m.attachments.get? key = some x) (found' : m.attachments.get? key' = some y)
    (home : x.descriptor.gatewayAccount = scope.account)
    (gateway : x.descriptor.gateway = y.descriptor.gateway)
    (account : x.descriptor.gatewayAccount = y.descriptor.gatewayAccount)
    (foreign : x.descriptor.owner ≠ scope) (owner : x.descriptor.owner = y.descriptor.owner)
    (name : x.descriptor.name = y.descriptor.name) : x.id = y.id := by
  have here := foundIn_of_built valid plain slashless built found
  have there := foundIn_of_built valid plain slashless built found'
  obtain ⟨ds, described, held⟩ := build_holds built
  have region := gateway_region_eq (Topology.faultless_of_validate valid) described
    (List.mem_filter.mp (held.mem_of_found found)).1
    (List.mem_filter.mp (held.mem_of_found found')).1 gateway account
  -- neither gateway can be a shared one, so both ids are what is published at one path
  have ids : x.gatewayId = y.gatewayId := by
    have published := here.gateway.resolve_right fun shared => shared.1 home
    have published' := there.gateway.resolve_right fun shared => shared.1 (account ▸ home)
    rw [Attachment.gatewayScope, gateway, account, region] at published
    exact Option.some.inj (published.symm.trans published')
  have recorded := here.foreign foreign
  have recorded' := there.foreign (owner ▸ foreign)
  rw [owner, ids, name] at recorded
  exact Option.some.inj (recorded.symm.trans recorded')

end UnitMap

/-! ## Both lookups -/

/-- How two attachments of one owner are looked up. -/
structure LookupsOf (t : Topology) (a b : Attachment) : Prop where
  /-- Their owner reads them at one path if and only if they share it. -/
  path : a.published.path t.settings.pathPrefix = b.published.path t.settings.pathPrefix ↔
    a.SharesPath b
  /-- If they do, and no name holds a slash, then they have one child and one name, and so
  they are on different gateways. -/
  gateways : a.published.Plain → b.published.Plain → a.SharesPath b →
    a.child = b.child ∧ a.name = b.name ∧ ¬(a.gateway = b.gateway ∧
      a.gatewayAccount = b.gatewayAccount)
  /-- If they do, then their owner records one id for both, whatever it is told. -/
  recorded : a.SharesPath b → ∀ (backend : Backend) (m : UnitMap) (s : Run),
    (UnitMap.build (t.vantage a.owner backend) t).run {} = .ok m s →
    ∀ key key' x y, m.attachments.get? key = some x → m.attachments.get? key' = some y →
      x.descriptor = a → y.descriptor = b → x.id = y.id
  /-- If they are on one gateway of another account, then they are those of different VPCs. -/
  asked : a.gateway = b.gateway → a.gatewayAccount = b.gatewayAccount →
    a.owner.account ≠ a.gatewayAccount → a.kind = .vpc ∧ b.kind = .vpc ∧ a.child ≠ b.child
  /-- If moreover they have one name, then the owner of the gateway records one id for both,
  whatever is published and recorded. -/
  confused : a.gateway = b.gateway → a.gatewayAccount = b.gatewayAccount →
    a.owner.account ≠ a.gatewayAccount → a.name = b.name →
    (∀ g ∈ t.network.gateways, ∀ name ∈ g.names, '_' ∉ name.toList ∧ '/' ∉ name.toList) →
    (∀ name ∈ t.childNames, '/' ∉ name.toList) → ∀ (memory : Memory) (m : UnitMap) (s : Run),
    (UnitMap.build (t.vantage a.gatewayScope memory.backend) t).run {} = .ok m s →
    ∀ key key' x y, m.attachments.get? key = some x → m.attachments.get? key' = some y →
      x.descriptor = a → y.descriptor = b → x.id = y.id

/-- Of two attachments of a valid topology that have one owner, but not one place, and are not
both sides of peerings: when their lookups coincide. -/
theorem lookups_coincide_iff {t : Topology} (valid : t.validate = .ok ()) {scope : Scope}
    {ds : List Attachment} (described : t.attachments t.registry scope = .ok ds)
    {a b : Attachment} (ha : a ∈ ds) (hb : b ∈ ds) (differ : a.place ≠ b.place)
    (single : ¬(a.kind = .peering ∧ b.kind = .peering)) (owner : a.owner = b.owner) :
    LookupsOf t a b := by
  have faultless := Topology.faultless_of_validate valid
  have shares := faultless.path_eq_iff described ha hb differ single owner t.settings.pathPrefix
  refine ⟨shares, ?gateways, ?recorded, ?asked, ?confused⟩
  case gateways =>
    intro plain plain' share
    have same := congrArg (· ++ "") (shares.mpr share)
    obtain ⟨-, child, name, -⟩ := Published.path_attachment_append_injective plain plain' same
    refine ⟨child, name, fun ⟨gateway, account⟩ => differ ?_⟩
    rw [Attachment.place, Attachment.place, gateway, account, child, owner]
  case recorded =>
    intro share backend m s built key key' x y found found' descriptor descriptor'
    subst descriptor descriptor'
    exact UnitMap.own_id_eq built found found' rfl owner.symm (shares.mpr share)
  case asked =>
    intro gateway account elsewhere
    have foreign {d : Attachment} (hd : d ∈ ds) (other : d.owner.account ≠ d.gatewayAccount) :
        d.kind = .vpc := by
      by_contra kind
      exact other (congrArg Scope.account ((faultless.grounded described hd).owner kind))
    refine ⟨foreign ha elsewhere, foreign hb ?_, fun child => differ ?_⟩
    · rwa [← owner, ← account]
    · rw [Attachment.place, Attachment.place, gateway, account, child, owner]
  case confused =>
    intro gateway account elsewhere name plain slashless memory m s built key key' x y found found'
      descriptor descriptor'
    subst descriptor descriptor'
    have foreign : x.descriptor.owner ≠ x.descriptor.gatewayScope := by
      intro same
      exact elsewhere (congrArg Scope.account same)
    exact UnitMap.foreign_id_eq valid plain slashless built found found' rfl gateway account
      foreign owner name

/-- Two VPCs attached to one gateway of another account, the first to a second gateway as well,
and all attachments have one name. -/
def Topology.sampleNamesakes : Topology where
  settings := { homeRegion := "eu-west-1" }
  accounts :=
    [{ name := "Network", id := "111111111111", organizationalUnit := none },
      { name := "Workload", id := "222222222222", organizationalUnit := none }]
  network :=
    { gateways :=
        [{ name := "Core", account := "Network", region := "us-east-1" },
          { name := "Edge", account := "Network", region := "us-east-1" }]
      vpcs :=
        [{ name := "App", region := "us-east-1", placement := .single "Workload"
           cidrs := ["10.0.0.0/16"], ipamPool := none
           attachments :=
             [{ name := "link", gateway := ⟨"Core", "Network"⟩ },
               { name := "link", gateway := ⟨"Edge", "Network"⟩ }] },
          { name := "Db", region := "us-east-1", placement := .single "Workload"
            cidrs := ["10.1.0.0/16"], ipamPool := none
            attachments := [{ name := "link", gateway := ⟨"Core", "Network"⟩ }] }] }

theorem Topology.sampleNamesakes_valid : sampleNamesakes.validate = .ok () := rfl

/-- A memory in which each of the three attachments has a record of its own. -/
def Memory.sampleNamesakes : Memory where
  snapshot :=
    let network : Scope := ⟨"Network", "us-east-1"⟩
    { (({} : Snapshot).publish network "/accel/network/transitGateways/Core/id" "tgw-core").publish
        network "/accel/network/transitGateways/Edge/id" "tgw-edge" with
      attachments :=
        [⟨"Workload", "us-east-1", "tgw-core", "link", "att-app"⟩,
          ⟨"Workload", "us-east-1", "tgw-core", "link", "att-db"⟩,
          ⟨"Workload", "us-east-1", "tgw-edge", "link", "att-edge"⟩] }

/-- In a valid topology attachments at different places can have one lookup: two of one VPC are
published at one path, and two of different VPCs are asked for alike. The owner of the gateway
then records the id of the first one for both, although the second one has an id. -/
theorem lookups_collide :
    Topology.sampleNamesakes.validate = .ok () ∧
    ∃ ds, Topology.sampleNamesakes.attachments Topology.sampleNamesakes.registry
        ⟨"Network", "us-east-1"⟩ = .ok ds ∧
      (∃ a ∈ ds, ∃ b ∈ ds, a.place ≠ b.place ∧ a.kind = .vpc ∧ a.owner = b.owner ∧
        a.published.path "accel" = b.published.path "accel") ∧
      (∃ a ∈ ds, ∃ b ∈ ds, a.place ≠ b.place ∧ a.kind = .vpc ∧ a.owner = b.owner ∧
        a.gateway = b.gateway ∧ a.gatewayAccount = b.gatewayAccount ∧
        a.owner.account ≠ a.gatewayAccount ∧ a.name = b.name) ∧
      ∃ m s, (UnitMap.build (Topology.sampleNamesakes.vantage ⟨"Network", "us-east-1"⟩
          Memory.sampleNamesakes.backend) .sampleNamesakes).run {} = .ok m s ∧
        m.attachments.entries.map (fun e => (e.1, e.2.id)) =
          [("Core_Workload_App", "att-app"), ("Core_Workload_Db", "att-app"),
            ("Edge_Workload_App", "att-edge")] := by
  refine ⟨rfl, _, rfl, by decide +kernel, by decide +kernel, ?_⟩
  have built : (UnitMap.build (Topology.sampleNamesakes.vantage ⟨"Network", "us-east-1"⟩
      Memory.sampleNamesakes.backend) .sampleNamesakes).comesTo (fun m =>
        m.attachments.entries.map (fun e => (e.1, e.2.id)) =
          [("Core_Workload_App", "att-app"), ("Core_Workload_Db", "att-app"),
            ("Edge_Workload_App", "att-edge")]) = true := by
    decide +kernel
  obtain ⟨m, s, run, check⟩ := Lookup.exists_of_comesTo built
  exact ⟨m, s, run, of_decide_eq_true check⟩

/-- In this topology both sorts of coincidence are met: the attachments of the first VPC share a
path, and those of the two VPCs to one gateway have one name. -/
theorem lookups_coincide_iff_sample :
    ∃ ds, Topology.sampleNamesakes.attachments Topology.sampleNamesakes.registry
        ⟨"Network", "us-east-1"⟩ = .ok ds ∧
      ∃ a ∈ ds, ∃ b ∈ ds, ∃ c ∈ ds,
        a.place = ⟨"Core", "Network", "App", ⟨"Workload", "us-east-1"⟩⟩ ∧
        b.place = ⟨"Edge", "Network", "App", ⟨"Workload", "us-east-1"⟩⟩ ∧
        c.place = ⟨"Core", "Network", "Db", ⟨"Workload", "us-east-1"⟩⟩ ∧
        LookupsOf .sampleNamesakes a b ∧ a.SharesPath b ∧
        LookupsOf .sampleNamesakes a c ∧ a.name = c.name := by
  have found : ∃ ds, Topology.sampleNamesakes.attachments Topology.sampleNamesakes.registry
        ⟨"Network", "us-east-1"⟩ = .ok ds ∧
      ∃ a ∈ ds, ∃ b ∈ ds, ∃ c ∈ ds,
        a.place = ⟨"Core", "Network", "App", ⟨"Workload", "us-east-1"⟩⟩ ∧
        b.place = ⟨"Edge", "Network", "App", ⟨"Workload", "us-east-1"⟩⟩ ∧
        c.place = ⟨"Core", "Network", "Db", ⟨"Workload", "us-east-1"⟩⟩ ∧
        a.kind = .vpc ∧ a.published.path "accel" = b.published.path "accel" ∧ a.name = c.name :=
    ⟨_, rfl, by decide +kernel⟩
  obtain ⟨ds, described, a, ha, b, hb, c, hc, first, second, third, kind, path, name⟩ := found
  have single {d : Attachment} : ¬(a.kind = .peering ∧ d.kind = .peering) :=
    fun peerings => nomatch kind.symm.trans peerings.1
  have two := lookups_coincide_iff Topology.sampleNamesakes_valid described ha hb
    (by rw [first, second]; decide) single
    ((AttachmentPlace.mk.inj first).2.2.2.trans (AttachmentPlace.mk.inj second).2.2.2.symm)
  have others := lookups_coincide_iff Topology.sampleNamesakes_valid described ha hc
    (by rw [first, third]; decide) single
    ((AttachmentPlace.mk.inj first).2.2.2.trans (AttachmentPlace.mk.inj third).2.2.2.symm)
  exact ⟨ds, described, a, ha, b, hb, c, hc, first, second, third, two, two.path.mp path, others,
    name⟩

end Interlink
