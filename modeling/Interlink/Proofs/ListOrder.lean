import Interlink.Proofs.Accounts
import Interlink.Proofs.Expansion
import Interlink.Proofs.FixedMaps
import Mathlib.Data.List.Perm.Basic

/-!
# The order of a description

A topology is described in lists, and a unit goes through them in their order. Which
attachment is the first to need a gateway of another account depends on it, and with it
what is asked for when, and what is remembered. None of this shows in the map: if answers
are fixed, a description in another order comes to the same map, or to none as well
(`build_ignores_order`).

The map renders what the unit needs and is told, so it is enough that neither depends on
the order. What a unit needs is read off the lists one element at a time, and comes out in
another order. Only gateways and accounts are looked up in lists, by names that validation
keeps apart, so that the first entry of a name is the only one.
-/

namespace Interlink

/-! ## Lists in another order -/

/-- The elements of two lists correspond, though not place by place. -/
def Reorders {α : Type} (R : α → α → Prop) (as bs : List α) : Prop :=
  ∃ cs, List.Forall₂ R as cs ∧ cs.Perm bs

namespace Reorders

variable {α β κ : Type} {R : α → α → Prop} {as bs : List α}

/-- What the elements yield comes out in another order. -/
theorem flatMap {f g : α → List β} (h : Reorders R as bs)
    (images : ∀ a b, R a b → (f a).Perm (g b)) : (as.flatMap f).Perm (bs.flatMap g) := by
  obtain ⟨cs, related, perm⟩ := h
  refine List.Perm.trans ?_ (perm.flatMap_right g)
  clear perm
  induction related with
  | nil => exact .refl _
  | cons first _ ih => exact (images _ _ first).append ih

theorem map {f g : α → β} (h : Reorders R as bs) (images : ∀ a b, R a b → f a = g b) :
    (as.map f).Perm (bs.map g) := by
  rw [List.map_eq_flatMap, List.map_eq_flatMap]
  refine h.flatMap fun a b related => ?_
  rw [images a b related]

theorem filter {p : α → Bool} (h : Reorders R as bs) (alike : ∀ a b, R a b → p a = p b) :
    Reorders R (as.filter p) (bs.filter p) := by
  obtain ⟨cs, related, perm⟩ := h
  refine ⟨cs.filter p, ?_, perm.filter p⟩
  clear perm
  induction related with
  | nil => exact .nil
  | @cons a c _ _ first _ ih =>
    rw [List.filter_cons, List.filter_cons, alike a c first]
    split
    · exact .cons first ih
    · exact ih

/-- Every element corresponds to one of the other list. -/
theorem exists_of_mem (h : Reorders R as bs) {a : α} (ha : a ∈ as) : ∃ b ∈ bs, R a b := by
  obtain ⟨cs, related, perm⟩ := h
  obtain ⟨c, hc, first⟩ := exists_of_forall₂ related.flip ha
  exact ⟨c, perm.mem_iff.mp hc, first⟩

theorem of_perm (perm : as.Perm bs) : Reorders Eq as bs :=
  ⟨as, List.forall₂_same.mpr fun _ _ => rfl, perm⟩

/-- Every element of the other list corresponds to one. -/
theorem exists_of_mem_right (h : Reorders R as bs) {b : α} (hb : b ∈ bs) : ∃ a ∈ as, R a b := by
  obtain ⟨cs, related, perm⟩ := h
  exact exists_of_forall₂ related (perm.mem_iff.mpr hb)

/-- What holds of all elements is a matter of what holds of one. -/
theorem forall_iff {P Q : α → Prop} (h : Reorders R as bs) (alike : ∀ a b, R a b → (P a ↔ Q b)) :
    (∀ a ∈ as, P a) ↔ ∀ b ∈ bs, Q b := by
  constructor
  · intro all b hb
    obtain ⟨a, ha, related⟩ := h.exists_of_mem_right hb
    exact (alike a b related).mp (all a ha)
  · intro all a ha
    obtain ⟨b, hb, related⟩ := h.exists_of_mem ha
    exact (alike a b related).mpr (all b hb)

/-- Keys repeat in either order or in none. -/
theorem nodup_iff {key : α → κ} (h : Reorders R as bs) (same : ∀ a b, R a b → key a = key b) :
    (as.map key).Nodup ↔ (bs.map key).Nodup :=
  (h.map same).nodup_iff

theorem any_eq {p : α → Bool} (h : Reorders R as bs) (alike : ∀ a b, R a b → p a = p b) :
    as.any p = bs.any p := by
  simpa using (h.map alike).any_eq (f := id)

/-- Where keys do not repeat, corresponding elements are found under a key. -/
theorem find? [BEq κ] [LawfulBEq κ] {key : α → κ} (h : Reorders R as bs)
    (same : ∀ a b, R a b → key a = key b) (distinct : (as.map key).Nodup) (k : κ) :
    Option.Rel R (as.find? (key · == k)) (bs.find? (key · == k)) := by
  have distinct' : (bs.map key).Nodup := (h.nodup_iff same).mp distinct
  cases found : as.find? (key · == k) with
  | some a =>
    obtain ⟨b, hb, related⟩ := h.exists_of_mem (List.mem_of_find?_eq_some found)
    have named : key a = k := by simpa using List.find?_some found
    have there : (bs.find? (key · == k)).isSome = true :=
      List.find?_isSome.mpr ⟨b, hb, by simpa using (same a b related).symm.trans named⟩
    obtain ⟨b', found'⟩ := Option.isSome_iff_exists.mp there
    have named' : key b' = k := by simpa using List.find?_some found'
    have keys : key b' = key b := named'.trans (named.symm.trans (same a b related))
    obtain rfl : b' = b :=
      List.inj_on_of_nodup_map distinct' (List.mem_of_find?_eq_some found') hb keys
    rw [found']
    exact .some related
  | none =>
    have none : bs.find? (key · == k) = none := by
      rw [List.find?_eq_none] at found ⊢
      intro b hb
      obtain ⟨a, ha, related⟩ := h.exists_of_mem_right hb
      rw [← same a b related]
      exact found a ha
    rw [none]
    exact .none

end Reorders

/-! ## Topologies in another order -/

/-- The same gateway with its route tables in another order. -/
def Gateway.Reordered (g g' : Gateway) : Prop :=
  ∃ tables, g.routeTables.Perm tables ∧ g' = { g with routeTables := tables }

/-- The same VPC with its attachments in another order. -/
def Vpc.Reordered (v v' : Vpc) : Prop :=
  ∃ attachments, v.attachments.Perm attachments ∧ v' = { v with attachments }

/-- The same customer gateway with its VPN connections in another order. -/
def CustomerGateway.Reordered (c c' : CustomerGateway) : Prop :=
  ∃ connections, c.vpnConnections.Perm connections ∧ c' = { c with vpnConnections := connections }

/-- The same Direct Connect gateway with its associations in another order. -/
def DirectConnectGateway.Reordered (d d' : DirectConnectGateway) : Prop :=
  ∃ associations, d.associations.Perm associations ∧ d' = { d with associations }

/-- The same topology in another order: that of accounts, of gateways and their route tables, of
whatever is attached to gateways, and of prefix lists. -/
structure Topology.Reordered (t t' : Topology) : Prop where
  settings : t.settings = t'.settings
  accounts : t.accounts.Perm t'.accounts
  gateways : Reorders Gateway.Reordered t.network.gateways t'.network.gateways
  vpcs : Reorders Vpc.Reordered t.network.vpcs t'.network.vpcs
  vpcPeerings : t.network.vpcPeerings = t'.network.vpcPeerings
  prefixLists : t.network.prefixLists.Perm t'.network.prefixLists
  gatewayPeerings : t.network.gatewayPeerings.Perm t'.network.gatewayPeerings
  customerGateways : Reorders CustomerGateway.Reordered t.network.customerGateways
    t'.network.customerGateways
  directConnectGateways : Reorders DirectConnectGateway.Reordered t.network.directConnectGateways
    t'.network.directConnectGateways
  resolverRules : t.network.resolverRules = t'.network.resolverRules
  external : t.network.external = t'.network.external

/-! ## Accounts -/

namespace Registry

variable {accounts accounts' : List Account}

/-- Accounts of different names are found in any order. -/
theorem accountId?_perm (perm : accounts.Perm accounts')
    (distinct : (accounts.map (·.name)).Nodup) (name : String) :
    (ofAccounts accounts).accountId? name = (ofAccounts accounts').accountId? name := by
  have distinct' := (perm.map (·.name)).nodup distinct
  apply Option.ext
  intro id
  rw [accountId?_ofAccounts distinct, accountId?_ofAccounts distinct']
  simp only [perm.mem_iff]

theorem vpcAccounts_perm (perm : accounts.Perm accounts')
    (distinct : (accounts.map (·.name)).Nodup) (v : Vpc) :
    ((ofAccounts accounts).vpcAccounts v).Perm ((ofAccounts accounts').vpcAccounts v) := by
  have distinct' := (perm.map (·.name)).nodup distinct
  have units (organizationalUnit : String) :
      ((ofAccounts accounts).accountsIn organizationalUnit).Perm
        ((ofAccounts accounts').accountsIn organizationalUnit) := by
    unfold accountsIn
    rw [(indexes_ofAccounts distinct).kept, (indexes_ofAccounts distinct').kept]
    exact (perm.filter _).map _
  unfold vpcAccounts placed
  cases v.placement with
  | single account => exact .refl _
  | targets choice =>
    have candidates : ((ofAccounts accounts).candidates choice).Perm
        ((ofAccounts accounts').candidates choice) :=
      (List.Perm.flatMap_left _ fun unit _ => units unit).append_left _
    refine (List.perm_ext_iff_of_nodup (nodup_firstOccurrences _)
      (nodup_firstOccurrences _)).mpr fun name => ?_
    rw [mem_firstOccurrences, mem_firstOccurrences, (candidates.filter _).mem_iff]

end Registry

/-- The values of a list of results in another order. -/
theorem collectOk_perm {ε α : Type} {rs rs' : List (Except ε α)} (perm : rs.Perm rs')
    {as : List α} (collected : collectOk rs = .ok as) :
    ∃ as', collectOk rs' = .ok as' ∧ as.Perm as' := by
  cases collected' : collectOk rs' with
  | error e =>
    have failed := perm.mem_iff.mpr (Topology.collectOk_eq_error collected')
    obtain ⟨a, -, none⟩ := ok_of_collectOk collected failed
    exact nomatch none
  | ok as' =>
    rw [collectOk_eq_ok.mp collected, collectOk_eq_ok.mp collected'] at perm
    exact ⟨as', rfl, (List.map_perm_map_iff fun _ _ => Except.ok.inj).mp perm⟩

/-! ## What is looked up -/

theorem Gateway.Reordered.hasRouteTable {g g' : Gateway} (h : g.Reordered g') :
    g'.hasRouteTable = g.hasRouteTable := by
  obtain ⟨tables, perm, rfl⟩ := h
  funext table
  exact perm.any_eq.symm

namespace Topology

variable {t t' : Topology} {scope : Scope}

section Reordered

variable (reordered : t.Reordered t') (faultless : t.Faultless)
include reordered faultless

/-- The same gateways are found. -/
theorem Reordered.gateway? (name account : String) :
    Option.Rel Gateway.Reordered (t.gateway? name account) (t'.gateway? name account) := by
  refine reordered.gateways.find? ?_ faultless.gateway_accounts_nodup (name, account)
  rintro g _ ⟨tables, -, rfl⟩
  rfl

/-- What is made of a gateway without its route tables is made of it in either order. -/
theorem Reordered.requireGateway_bind {α : Type} {name account : String}
    {f : Gateway → Except PlanError α}
    (blind : ∀ g tables, f { g with routeTables := tables } = f g) :
    (t'.requireGateway name account scope >>= f) = (t.requireGateway name account scope >>= f) := by
  have same := reordered.gateway? faultless name account
  unfold requireGateway
  generalize t.gateway? name account = found at same ⊢
  generalize t'.gateway? name account = found' at same ⊢
  cases same with
  | none => rfl
  | some alike =>
    obtain ⟨tables, -, rfl⟩ := alike
    exact blind _ tables

/-- The same attachments are described in another order, errors included. -/
theorem Reordered.attachmentResults :
    (t.attachmentResults t.registry scope).Perm (t'.attachmentResults t'.registry scope) := by
  refine ((List.Perm.append ?vpcs ?vpns).append ?directConnects).append ?peerings
  case vpcs =>
    refine reordered.vpcs.flatMap ?_
    rintro v _ ⟨attachments, perm, rfl⟩
    have deployed := Registry.vpcAccounts_perm reordered.accounts faultless.account_names_nodup v
    refine deployed.flatMap fun account _ => ?_
    have same : t'.vpcAttachment scope { v with attachments } account =
        t.vpcAttachment scope v account :=
      funext fun a => reordered.requireGateway_bind faultless fun _ _ => rfl
    rw [same]
    exact perm.map _
  case vpns =>
    refine reordered.customerGateways.flatMap ?_
    rintro c _ ⟨connections, perm, rfl⟩
    have same : t'.vpnAttachment scope { c with vpnConnections := connections } =
        t.vpnAttachment scope c :=
      funext fun v => reordered.requireGateway_bind faultless fun _ _ => rfl
    rw [same]
    exact perm.map _
  case directConnects =>
    refine reordered.directConnectGateways.flatMap ?_
    rintro d _ ⟨associations, perm, rfl⟩
    have same : t'.directConnectAttachment scope { d with associations } =
        t.directConnectAttachment scope d :=
      funext fun a => reordered.requireGateway_bind faultless fun _ _ => rfl
    rw [same]
    exact perm.map _
  case peerings =>
    refine reordered.gatewayPeerings.flatMap fun p _ => ?_
    have same : t'.peeringAttachment scope p = t.peeringAttachment scope p :=
      funext fun side => reordered.requireGateway_bind faultless fun _ _ => rfl
    rw [same]

/-! ## What is needed -/

theorem Reordered.foreignTables (a : Attachment) :
    UnitMap.foreignTables t' scope a = UnitMap.foreignTables t scope a := by
  have same := reordered.gateway? faultless a.gateway a.gatewayAccount
  unfold UnitMap.foreignTables
  generalize t.gateway? a.gateway a.gatewayAccount = found at same ⊢
  generalize t'.gateway? a.gateway a.gatewayAccount = found' at same ⊢
  cases same with
  | none => rfl
  | some alike =>
    dsimp only
    rw [alike.hasRouteTable]

/-- A unit needs the same in another order. -/
theorem Reordered.needs {ds ds' : List Attachment} (perm : ds.Perm ds') :
    (t.needs scope ds).Perm (t'.needs scope ds') := by
  have own : Reorders Gateway.Reordered (UnitMap.ownGateways t scope)
      (UnitMap.ownGateways t' scope) := by
    refine reordered.gateways.filter ?_
    rintro g _ ⟨tables, -, rfl⟩
    rfl
  have relevant := perm.filter (UnitMap.concerns scope)
  constructor
  case gateways =>
    refine List.Perm.append ?_ (relevant.map _)
    refine own.map ?_
    rintro g _ ⟨tables, -, rfl⟩
    rfl
  case tables =>
    refine List.Perm.append ?_ (relevant.flatMap fun a _ => ?_)
    · refine own.flatMap ?_
      rintro g _ ⟨tables, tablesPerm, rfl⟩
      exact tablesPerm.map _
    · rw [reordered.foreignTables faultless]
  case attachments => exact relevant
  case prefixLists => exact (reordered.prefixLists.filter _).map _

/-- A unit is told the same in another order. -/
theorem Reordered.knowledge (answer : Query → Answer) :
    (t'.vantage scope (.fixed answer)).knowledge answer =
      (t.vantage scope (.fixed answer)).knowledge answer :=
  Vantage.knowledge_congr rfl (congrArg Settings.homeRegion reordered.settings).symm
    (congrArg Settings.pathPrefix reordered.settings).symm fun name =>
      (Registry.accountId?_perm reordered.accounts faultless.account_names_nodup name).symm

end Reordered

end Topology

/-! ## Maps -/

open UnitMap

/-- With fixed answers the map of a unit does not depend on the order of the description. In
either order the unit comes to the same map, with the same edges to plan, or to none. -/
theorem build_ignores_order {t t' : Topology} (valid : t.validate = .ok ())
    (plain : ∀ g ∈ t.network.gateways, ∀ name ∈ g.names, '_' ∉ name.toList ∧ '/' ∉ name.toList)
    (slashless : ∀ name ∈ t.childNames, '/' ∉ name.toList) (reordered : t.Reordered t')
    (scope : Scope) (answer : Query → Answer) (m : UnitMap) :
    ((∃ s, (build (t.vantage scope (.fixed answer)) t).run {} = .ok m s) ↔
      ∃ s, (build (t'.vantage scope (.fixed answer)) t').run {} = .ok m s) ∧
    Plan.edgesOf m t = Plan.edgesOf m t' := by
  have faultless := Topology.faultless_of_validate valid
  have results : (t.attachmentResults t.registry scope).Perm
      (t'.attachmentResults t'.registry scope) := reordered.attachmentResults faultless
  refine ⟨?maps, ?edges⟩
  case edges => rw [Plan.edgesOf, Plan.edgesOf, reordered.external]
  case maps =>
    cases described : t.attachments t.registry scope with
    | error e =>
      -- Where attachments cannot be described, there is no map in either order.
      constructor
      · rintro ⟨s, run⟩
        obtain ⟨ds, described', -⟩ := build_holds run
        exact nomatch described.symm.trans described'
      · rintro ⟨s, run⟩
        obtain ⟨ds', described', -⟩ := build_holds run
        obtain ⟨ds, collected, -⟩ := collectOk_perm results.symm described'
        exact nomatch described.symm.trans collected
    | ok ds =>
      obtain ⟨ds', described', perm⟩ := collectOk_perm results described
      have needs : (t.needs scope ds).Perm (t'.needs scope ds') := reordered.needs faultless perm
      have legible := legible_of_plain faultless described plain
      have legible' := legible.mono needs.gateways.symm.subset needs.tables.symm.subset
      have published {a : Attachment} (ha : a ∈ ds) : a.published.Plain :=
        Topology.plain_of_described slashless described ha
      have here : (∃ s, (build (t.vantage scope (.fixed answer)) t).run {} = .ok m s) ↔
          m.Renders ((t.vantage scope (.fixed answer)).knowledge answer) scope
            (t.needs scope ds) :=
        built_iff rfl described legible fun a ha => published ha
      have there : (∃ s, (build (t'.vantage scope (.fixed answer)) t').run {} = .ok m s) ↔
          m.Renders ((t'.vantage scope (.fixed answer)).knowledge answer) scope
            (t'.needs scope ds') :=
        built_iff rfl described' legible' fun a ha => published (perm.mem_iff.mpr ha)
      rw [here, there, reordered.knowledge faultless]
      exact ⟨fun h => h.perm needs, fun h => h.perm needs.symm⟩

/-- The sample with its lists backwards. -/
def Topology.sampleBackwards : Topology where
  settings := Topology.sample.settings
  accounts := Topology.sample.accounts.reverse
  network :=
    { Topology.sample.network with
      gateways := Topology.sample.network.gateways.map fun g =>
        { g with routeTables := g.routeTables.reverse }
      vpcs := Topology.sample.network.vpcs.reverse }

theorem Topology.sample_reordered : Topology.sample.Reordered .sampleBackwards where
  settings := rfl
  accounts := (List.reverse_perm _).symm
  gateways := ⟨_, .cons ⟨_, (List.reverse_perm _).symm, rfl⟩ .nil, .refl _⟩
  vpcs := ⟨_, List.forall₂_same.mpr fun _ _ => ⟨_, .refl _, rfl⟩, (List.reverse_perm _).symm⟩
  vpcPeerings := rfl
  prefixLists := .refl _
  gatewayPeerings := .refl _
  customerGateways := ⟨[], .nil, .refl _⟩
  directConnectGateways := ⟨[], .nil, .refl _⟩
  resolverRules := rfl
  external := rfl

/-- The owner of the VPC has the same map in either order. -/
theorem build_ignores_order_sample :
    ∃ m s s', m.attachments.contains "Core_Workload_App" = true ∧
      (build (Topology.sample.vantage ⟨"Workload", "us-east-1"⟩ (.fixed ownOrShared))
        .sample).run {} = .ok m s ∧
      (build (Topology.sampleBackwards.vantage ⟨"Workload", "us-east-1"⟩ (.fixed ownOrShared))
        .sampleBackwards).run {} = .ok m s' ∧
      Plan.edgesOf m .sample = Plan.edgesOf m .sampleBackwards := by
  have mapped : (build (Topology.sample.vantage ⟨"Workload", "us-east-1"⟩ (.fixed ownOrShared))
      .sample).comesTo (·.attachments.contains "Core_Workload_App") = true := by decide +kernel
  obtain ⟨m, s, run, attached⟩ := Lookup.exists_of_comesTo mapped
  obtain ⟨maps, edges⟩ := build_ignores_order Topology.sample_valid (by decide +kernel)
    (by decide +kernel) Topology.sample_reordered ⟨"Workload", "us-east-1"⟩ ownOrShared m
  obtain ⟨s', run'⟩ := maps.mp ⟨s, run⟩
  exact ⟨m, s, s', attached, run, run', edges⟩

end Interlink
