import Interlink.Topology.Lint
import Interlink.Proofs.Deployment

/-!
# Route tables that nothing uses

A route table of a gateway is used by the attachments that are associated with it
or announce themselves to it, and by nothing else if it has no routes. The list of
attachments has those of all four sorts. The lint does not look at that list: it
reads the attachments of the VPCs as they are written, and of no other child.

What it reads agrees with the list as far as VPCs go, provided that every VPC is
deployed somewhere (`isUsed_iff`). So it warns of every table that is not used, and
besides of the tables that only a VPN connection, a Direct Connect gateway or a
peering of gateways uses. Those tables are `Overlooked`; the warnings are right if
and only if there is none (`unused_tables_warned`). `overlooked_table_warned` has
a topology with one.
-/

namespace Interlink

/-- A warning says of a route table that it is never used. -/
def Warning.isOfTable : Warning → Bool
  | .unusedRouteTable _ _ => true
  | _ => false

/-- An attachment is associated with a route table of a gateway, or announces itself to it. -/
structure Attachment.Uses (a : Attachment) (g : Gateway) (table : String) : Prop where
  gateway : a.gateway = g.name
  account : a.gatewayAccount = g.account
  listed : table ∈ a.associations ∨ table ∈ a.propagations

instance (a : Attachment) (g : Gateway) (table : String) : Decidable (a.Uses g table) :=
  decidable_of_iff (a.gateway = g.name ∧ a.gatewayAccount = g.account ∧
      (table ∈ a.associations ∨ table ∈ a.propagations))
    ⟨fun ⟨gateway, account, listed⟩ => ⟨gateway, account, listed⟩,
      fun h => ⟨h.gateway, h.account, h.listed⟩⟩

/-- A route table with the gateway that has it. -/
structure GatewayTable where
  gateway : Gateway
  table : GatewayRouteTable
deriving DecidableEq, Repr, Inhabited

namespace GatewayTable

/-- The warning that the table is never used. -/
def warning (x : GatewayTable) : Warning :=
  .unusedRouteTable x.table.name x.gateway.name

/-- An attachment uses the table. -/
def UsedBy (x : GatewayTable) (a : Attachment) : Prop := a.Uses x.gateway x.table.name

instance (x : GatewayTable) (a : Attachment) : Decidable (x.UsedBy a) :=
  inferInstanceAs (Decidable (a.Uses x.gateway x.table.name))

/-- The table has no routes, and no attachment of a list uses it. -/
def Unused (ds : List Attachment) (x : GatewayTable) : Prop :=
  x.table.routes = [] ∧ ∀ d ∈ ds, ¬ x.UsedBy d

/-- The table has no routes, and attachments of a list use it, but no VPC's does. -/
def Overlooked (ds : List Attachment) (x : GatewayTable) : Prop :=
  x.table.routes = [] ∧ (∃ d ∈ ds, x.UsedBy d) ∧ ∀ d ∈ ds, x.UsedBy d → d.kind ≠ .vpc

instance (ds : List Attachment) : DecidablePred (Unused ds) := fun x =>
  inferInstanceAs (Decidable (x.table.routes = [] ∧ ∀ d ∈ ds, ¬ x.UsedBy d))

instance (ds : List Attachment) : DecidablePred (Overlooked ds) := fun x =>
  inferInstanceAs (Decidable (x.table.routes = [] ∧ (∃ d ∈ ds, x.UsedBy d) ∧
    ∀ d ∈ ds, x.UsedBy d → d.kind ≠ .vpc))

/-- A table that is overlooked is used, by an attachment of another sort than a VPC's. -/
theorem Overlooked.used {ds : List Attachment} {x : GatewayTable} (h : x.Overlooked ds) :
    ∃ d ∈ ds, x.UsedBy d ∧ (d.kind = .vpn ∨ d.kind = .directConnect ∨ d.kind = .peering) := by
  obtain ⟨-, ⟨d, hd, used⟩, others⟩ := h
  refine ⟨d, hd, used, ?_⟩
  have other := others d hd used
  cases kind : d.kind with
  | vpc => exact absurd kind other
  | vpn => exact .inl rfl
  | directConnect => exact .inr (.inl rfl)
  | peering => exact .inr (.inr rfl)

/-- It is not one that nothing uses. -/
theorem Overlooked.not_unused {ds : List Attachment} {x : GatewayTable} (h : x.Overlooked ds) :
    ¬ x.Unused ds := by
  rintro ⟨-, unused⟩
  obtain ⟨d, hd, used, -⟩ := h.used
  exact unused d hd used

/-- No VPC uses a table without routes if nothing uses it, or something else does. -/
theorem unused_or_overlooked {ds : List Attachment} {x : GatewayTable} :
    x.Unused ds ∨ x.Overlooked ds ↔
      x.table.routes = [] ∧ ∀ d ∈ ds, x.UsedBy d → d.kind ≠ .vpc := by
  constructor
  · rintro (⟨routes, unused⟩ | ⟨routes, -, others⟩)
    · exact ⟨routes, fun d hd used => absurd used (unused d hd)⟩
    · exact ⟨routes, others⟩
  · rintro ⟨routes, others⟩
    by_cases used : ∃ d ∈ ds, x.UsedBy d
    · exact .inr ⟨routes, used, others⟩
    · exact .inl ⟨routes, fun d hd u => used ⟨d, hd, u⟩⟩

end GatewayTable

namespace Topology

variable {t : Topology} {scope : Scope} {ds : List Attachment}

/-- The route tables of the gateways, as they are described. -/
def tables (t : Topology) : List GatewayTable :=
  t.network.gateways.flatMap fun g => g.routeTables.map fun table => ⟨g, table⟩

/-! ## What the lint reads -/

/-- The description of a VPC's attachment says what is written of it. -/
theorem vpcAttachment_uses {v : Vpc} {account : String} {a : VpcAttachment} {d : Attachment}
    (made : t.vpcAttachment scope v account a = .ok d) (g : Gateway) (table : String) :
    d.Uses g table ↔ a.gateway.name = g.name ∧ a.gateway.account = g.account ∧
      (table ∈ a.associations ∨ table ∈ a.propagations) := by
  obtain ⟨h, found, made⟩ := requireGateway_bind_ok made
  obtain ⟨-, name, account⟩ := gateway?_some found
  split at made
  · cases made
    rw [← name, ← account]
    exact ⟨fun u => ⟨u.gateway, u.account, u.listed⟩, fun ⟨n, a, l⟩ => ⟨n, a, l⟩⟩
  · exact nomatch made

/-- The attachments of VPCs that are described for a topology are those that are written, if
every VPC is deployed somewhere. -/
theorem isUsed_iff (deployed : ∀ v ∈ t.network.vpcs, t.registry.vpcAccounts v ≠ [])
    (described : t.attachments t.registry scope = .ok ds) (g : Gateway) (table : String) :
    t.isUsed g table = true ↔ ∃ d ∈ ds, d.kind = .vpc ∧ d.Uses g table := by
  have written : t.isUsed g table = true ↔ ∃ v ∈ t.network.vpcs, ∃ a ∈ v.attachments,
      a.gateway.name = g.name ∧ a.gateway.account = g.account ∧
        (table ∈ a.associations ∨ table ∈ a.propagations) := by
    simp only [isUsed, List.any_eq_true, Bool.and_eq_true, Bool.or_eq_true, beq_iff_eq,
      List.contains_iff_mem, and_assoc]
  rw [written]
  constructor
  · rintro ⟨v, hv, a, attached, uses⟩
    obtain ⟨account, rest, accounts⟩ := List.exists_cons_of_ne_nil (deployed v hv)
    obtain ⟨d, hd, made⟩ := described_of_deployed described hv
      (accounts ▸ List.mem_cons_self) attached
    exact ⟨d, hd, (vpcAttachment_ok made).1, (vpcAttachment_uses made g table).mpr uses⟩
  · rintro ⟨d, hd, kind, uses⟩
    cases workedOut_of_described described hd with
    | vpc defined _ attached made =>
      exact ⟨_, defined, _, attached, (vpcAttachment_uses made g table).mp uses⟩
    | vpn _ _ made | directConnect _ _ made | peering _ _ made =>
      obtain ⟨g', -, made⟩ := requireGateway_bind_ok made
      cases made
      exact nomatch kind

/-- So the lint finds a table in want of use if nothing uses it, or something else than a VPC
does. -/
theorem unread_eq (deployed : ∀ v ∈ t.network.vpcs, t.registry.vpcAccounts v ≠ [])
    (described : t.attachments t.registry scope = .ok ds) (x : GatewayTable) :
    (!t.isUsed x.gateway x.table.name && x.table.routes.isEmpty) =
      decide (x.Unused ds ∨ x.Overlooked ds) := by
  have used := isUsed_iff deployed described x.gateway x.table.name
  rw [Bool.eq_iff_iff, decide_eq_true_iff, GatewayTable.unused_or_overlooked, Bool.and_eq_true,
    Bool.not_eq_true', Bool.eq_false_iff, ne_eq, used, List.isEmpty_iff]
  constructor
  · rintro ⟨unused, routes⟩
    exact ⟨routes, fun d hd uses kind => unused ⟨d, hd, kind, uses⟩⟩
  · rintro ⟨routes, others⟩
    exact ⟨fun ⟨d, hd, kind, uses⟩ => others d hd uses kind, routes⟩

/-- The warnings of tables are those of the tables without routes that no VPC uses. -/
theorem lint_tables (t : Topology) :
    t.lint.filter Warning.isOfTable =
      (t.tables.filter fun x =>
        !t.isUsed x.gateway x.table.name && x.table.routes.isEmpty).map (·.warning) := by
  have none {α : Type} (f : α → Warning) (hf : ∀ a, (f a).isOfTable = false) (as : List α) :
      (as.map f).filter Warning.isOfTable = [] := by
    simp [hf]
  have every {α : Type} (f : α → Warning) (hf : ∀ a, (f a).isOfTable = true) (as : List α) :
      (as.map f).filter Warning.isOfTable = as.map f := by
    simp [hf]
  rw [lint, List.filter_append, List.filter_append, none _ fun _ => rfl, none _ fun _ => rfl,
    List.nil_append, List.filter_flatMap, tables, List.filter_flatMap, List.map_flatMap]
  refine List.flatMap_congr fun g _ => ?_
  rw [every _ fun _ => rfl, List.filter_map, List.map_map]
  rfl

/-- A warning of the lint that is of a table is the warning of one that is in question. -/
theorem warned_iff {p : GatewayTable → Bool}
    (warned : t.lint.filter Warning.isOfTable = (t.tables.filter p).map (·.warning))
    (table gateway : String) :
    .unusedRouteTable table gateway ∈ t.lint ↔
      ∃ x ∈ t.tables, p x = true ∧ x.gateway.name = gateway ∧ x.table.name = table := by
  have listed : .unusedRouteTable table gateway ∈ t.lint ↔
      .unusedRouteTable table gateway ∈ t.lint.filter Warning.isOfTable := by
    simp [Warning.isOfTable]
  rw [listed, warned]
  simp only [List.mem_map, List.mem_filter, GatewayTable.warning, Warning.unusedRouteTable.injEq,
    and_assoc]
  constructor
  · rintro ⟨x, hx, px, name, gateway⟩
    exact ⟨x, hx, px, gateway, name⟩
  · rintro ⟨x, hx, px, gateway, name⟩
    exact ⟨x, hx, px, name, gateway⟩

/-! ## What it warns of -/

/-- The warnings of a topology that are of tables, held against its attachments. -/
structure TablesWarned (t : Topology) (ds : List Attachment) : Prop where
  /-- There is a warning for every table that is not used and for every table that is overlooked,
  in the order of the description, and no other. -/
  order : t.lint.filter Warning.isOfTable =
    (t.tables.filter fun x => x.Unused ds ∨ x.Overlooked ds).map (·.warning)
  /-- The same for a table by its names. -/
  names : ∀ table gateway, .unusedRouteTable table gateway ∈ t.lint ↔
    ∃ x ∈ t.tables, (x.Unused ds ∨ x.Overlooked ds) ∧
      x.gateway.name = gateway ∧ x.table.name = table
  /-- A table that is overlooked is used, by an attachment of another sort than a VPC's. -/
  overlooked : ∀ x ∈ t.tables, x.Overlooked ds →
    ∃ d ∈ ds, x.UsedBy d ∧ (d.kind = .vpn ∨ d.kind = .directConnect ∨ d.kind = .peering)
  /-- The warnings are of the tables that are not used, if and only if none is overlooked. -/
  exact_iff : t.lint.filter Warning.isOfTable =
      (t.tables.filter fun x => x.Unused ds).map (·.warning) ↔
    ∀ x ∈ t.tables, ¬ x.Overlooked ds

end Topology

open Interlink.Topology in
/-- The lint warns of the tables that are not used and of those that are overlooked. -/
theorem unused_tables_warned {t : Topology} {scope : Scope} {ds : List Attachment}
    (deployed : ∀ v ∈ t.network.vpcs, t.registry.vpcAccounts v ≠ [])
    (described : t.attachments t.registry scope = .ok ds) : t.TablesWarned ds := by
  have order : t.lint.filter Warning.isOfTable =
      (t.tables.filter fun x => x.Unused ds ∨ x.Overlooked ds).map (·.warning) := by
    rw [lint_tables]
    exact congrArg (List.map _) (List.filter_congr fun x _ => unread_eq deployed described x)
  refine ⟨order, fun table gateway => ?_, fun x _ h => h.used, ?_⟩
  · rw [warned_iff order]
    simp only [decide_eq_true_eq]
  rw [order]
  constructor
  · intro same x hx overlooked
    -- The unused tables are among those that are warned of, and they are as many.
    have among : (t.tables.filter fun x => x.Unused ds).Sublist
        (t.tables.filter fun x => x.Unused ds ∨ x.Overlooked ds) :=
      List.monotone_filter_right _ fun x => by simpa using Or.inl
    have many := congrArg List.length same
    rw [List.length_map, List.length_map] at many
    have warned : x ∈ t.tables.filter fun x => x.Unused ds ∨ x.Overlooked ds :=
      List.mem_filter.mpr ⟨hx, decide_eq_true (.inr overlooked)⟩
    rw [← among.eq_of_length many.symm] at warned
    exact overlooked.not_unused (of_decide_eq_true (List.mem_filter.mp warned).2)
  · intro none
    refine congrArg (List.map _) (List.filter_congr fun x hx => ?_)
    rw [decide_eq_decide, or_iff_left (none x hx)]

/-! ## A table that is overlooked -/

/-- A customer gateway whose VPN connection is associated with the table `edge`. -/
def CustomerGateway.sampleOffice : CustomerGateway where
  name := "Office"
  account := "Network"
  region := "us-east-1"
  vpnConnections := [{ name := "office", gateway := "Core", associations := ["edge"] }]

/-- Beside the tables of the sample the gateway has two, that of the VPN connection and one that
nothing uses. -/
def Topology.sampleOffice : Topology :=
  { sample with
    network :=
      { sample.network with
        gateways :=
          [{ name := "Core", account := "Network", region := "us-east-1"
             routeTables :=
               [{ name := "hub" }, { name := "spokes" }, { name := "edge" }, { name := "spare" }] }]
        customerGateways := [.sampleOffice] } }

/-- The attachments of that topology: the one of the VPC and that of the VPN connection. -/
def Topology.sampleOfficeAttachments : List Attachment :=
  [{ kind := .vpc, child := "App", name := "App-Core", gateway := "Core"
     gatewayAccount := "Network", region := "us-east-1", owner := ⟨"Workload", "us-east-1"⟩
     templated := false, associations := ["spokes"], propagations := ["hub"] },
    { kind := .vpn, child := "office", name := "office", gateway := "Core"
      gatewayAccount := "Network", region := "us-east-1", owner := ⟨"Network", "us-east-1"⟩
      templated := false, associations := ["edge"], propagations := [] }]

open Interlink.Topology in
theorem unused_tables_warned_sample :
    (∀ v ∈ sampleOffice.network.vpcs, sampleOffice.registry.vpcAccounts v ≠ []) ∧
      sampleOffice.attachments sampleOffice.registry ⟨"Network", "us-east-1"⟩ =
        .ok sampleOfficeAttachments ∧
      sampleOffice.TablesWarned sampleOfficeAttachments := by
  have deployed : ∀ v ∈ sampleOffice.network.vpcs, sampleOffice.registry.vpcAccounts v ≠ [] := by
    decide +kernel
  have described : sampleOffice.attachments sampleOffice.registry ⟨"Network", "us-east-1"⟩ =
      .ok sampleOfficeAttachments := rfl
  exact ⟨deployed, described, unused_tables_warned deployed described⟩

open Interlink.Topology in
/-- The topology is valid, its VPCs are deployed, and its attachments are described. A VPN
connection uses the table `edge`, and the lint says that `edge` is never used. -/
theorem overlooked_table_warned :
    sampleOffice.validate = .ok () ∧
      (∀ v ∈ sampleOffice.network.vpcs, sampleOffice.registry.vpcAccounts v ≠ []) ∧
      sampleOffice.attachments sampleOffice.registry ⟨"Network", "us-east-1"⟩ =
        .ok sampleOfficeAttachments ∧
      sampleOffice.lint.map Warning.message =
        ["Route table 'edge' of gateway 'Core' is never used",
          "Route table 'spare' of gateway 'Core' is never used"] ∧
      ¬ ∀ x ∈ sampleOffice.tables, x.warning ∈ sampleOffice.lint ↔
        x.Unused sampleOfficeAttachments := by
  refine ⟨rfl, by decide +kernel, rfl, rfl, ?_⟩
  decide +kernel

end Interlink
