import Interlink.Proofs.Accounts
import Interlink.Proofs.Expansion
import Mathlib.Data.List.Induction

/-!
# What a choice of accounts comes to

A choice lists accounts and organizational units, and excludes accounts. It comes
to the accounts that it lists in either way and does not exclude, each once, in
the order in which the list of candidates has them first. This determines the
list (`Registry.resolves_iff`). The candidates of a unit stand in the order of
the description, because the registry keeps that order (`Registry.Keeps`).

Three stages ask where a VPC is deployed: the description of the attachments, the
expansion of the peerings and the association of resolver rules. None of them
keeps an answer of its own, so that each sees the VPC in the same accounts
(`Topology.SeenIn`). What differs is only what else a stage asks for: that the
VPC has an attachment, that the VPC on the other side is deployed somewhere, or
that the VPC lists rules.
-/

namespace Interlink

namespace Registry

variable {r : Registry} {accounts : List Account} {choice : Targets} {name : String}
  {names : List String}

/-! ## The order of the description -/

/-- A registry has the first entry of every name, in the order of the entries. -/
structure Keeps (r : Registry) (accounts : List Account) : Prop where
  order : r.accounts.Sublist accounts
  first : ∀ a, a ∈ r.accounts ↔ accounts.find? (·.name == a.name) = some a

theorem keeps_ofAccounts (accounts : List Account) : (ofAccounts accounts).Keeps accounts := by
  constructor <;> rw [accounts_ofAccounts]
  · exact firsts_sublist
  · exact fun a => mem_firsts

/-! ## The order of first occurrences -/

theorem firstOccurrences_concat (names : List String) (name : String) :
    firstOccurrences (names ++ [name]) =
      if name ∈ names then firstOccurrences names else firstOccurrences names ++ [name] := by
  rw [firstOccurrences_eq, firstOccurrences_eq, firsts_id_concat]

/-- First occurrences stand in the order in which they occur. -/
theorem firstOccurrences_order (names : List String) :
    (firstOccurrences names).Pairwise fun a b => names.idxOf a < names.idxOf b := by
  induction names using List.reverseRecOn with
  | nil => exact List.Pairwise.nil
  | append_singleton names name ih =>
    have before {a : String} (ha : a ∈ firstOccurrences names) :
        (names ++ [name]).idxOf a = names.idxOf a :=
      List.idxOf_append_of_mem (mem_firstOccurrences.mp ha)
    have earlier : (firstOccurrences names).Pairwise fun a b =>
        (names ++ [name]).idxOf a < (names ++ [name]).idxOf b := by
      refine ih.imp_of_mem fun ha hb h => ?_
      rwa [before ha, before hb]
    rw [firstOccurrences_concat]
    split
    · exact earlier
    · next new =>
      rw [List.pairwise_append]
      refine ⟨earlier, List.pairwise_singleton _ _, fun a ha b hb => ?_⟩
      rw [List.mem_singleton.mp hb, before ha, List.idxOf_append_of_notMem new]
      exact Nat.lt_add_right _ (List.idxOf_lt_length_of_mem (mem_firstOccurrences.mp ha))

/-- What is left out of a list does not change the order of the rest. -/
theorem idxOf_filter_lt {p : String → Bool} {a b : String} (ha : p a = true) (hb : p b = true)
    (names : List String) :
    (names.filter p).idxOf a < (names.filter p).idxOf b ↔ names.idxOf a < names.idxOf b := by
  induction names with
  | nil => rfl
  | cons name rest ih =>
    by_cases kept : p name = true
    · rw [List.filter_cons_of_pos kept]
      by_cases second : name = b
      · -- nothing stands before the first element
        simp [second]
      · by_cases first : name = a
        · rw [List.idxOf_cons_ne _ second, List.idxOf_cons_ne _ second]
          simp [first]
        · simp only [List.idxOf_cons_ne _ first, List.idxOf_cons_ne _ second,
            Nat.succ_lt_succ_iff, ih]
    · have first : name ≠ a := by
        rintro rfl
        exact kept ha
      have second : name ≠ b := by
        rintro rfl
        exact kept hb
      rw [List.filter_cons_of_neg kept, ih, List.idxOf_cons_ne _ first,
        List.idxOf_cons_ne _ second, Nat.succ_lt_succ_iff]

/-! ## The accounts of a choice -/

/-- The names that a choice of accounts lists: those of its accounts, and those of the members
of its units. -/
inductive Names (r : Registry) (choice : Targets) : String → Prop
  | account {name : String} (listed : name ∈ choice.accounts) : r.Names choice name
  | member {unit : String} {a : Account} (listed : unit ∈ choice.organizationalUnits)
      (known : a ∈ r.accounts) (placed : a.organizationalUnit = some unit) :
      r.Names choice a.name

theorem mem_candidates : name ∈ r.candidates choice ↔ r.Names choice name := by
  unfold candidates
  rw [List.mem_append, List.mem_flatMap]
  constructor
  · rintro (listed | ⟨unit, listed, member⟩)
    · exact .account listed
    · obtain ⟨a, ha, rfl⟩ := List.mem_map.mp member
      obtain ⟨known, placed⟩ := List.mem_filter.mp ha
      exact .member listed known (beq_iff_eq.mp placed)
  · intro named
    cases named with
    | account listed => exact .inl listed
    | member listed known placed =>
      refine .inr ⟨_, listed, List.mem_map_of_mem (List.mem_filter.mpr ⟨known, ?_⟩)⟩
      exact beq_iff_eq.mpr placed

/-- A list is what a choice of accounts comes to. -/
structure Resolves (r : Registry) (choice : Targets) (names : List String) : Prop where
  nodup : names.Nodup
  /-- The choice lists a name and does not exclude it. -/
  mem : ∀ name, name ∈ names ↔ r.Names choice name ∧ name ∉ choice.excludedAccounts
  /-- The names stand in the order of the candidates, a name where it occurs first. -/
  order : names.Pairwise fun a b =>
    (r.candidates choice).idxOf a < (r.candidates choice).idxOf b

theorem resolveTargets_resolves (r : Registry) (choice : Targets) :
    r.Resolves choice (r.resolveTargets choice) where
  nodup := nodup_firstOccurrences _
  mem := by
    intro name
    rw [resolveTargets, mem_firstOccurrences, List.mem_filter, mem_candidates]
    simp
  order := by
    refine (firstOccurrences_order _).imp_of_mem fun {a b} ha hb h => ?_
    have kept {x : String} (hx : x ∈ r.resolveTargets choice) :
        (!choice.excludedAccounts.contains x) = true :=
      (List.mem_filter.mp (mem_firstOccurrences.mp hx)).2
    exact (idxOf_filter_lt (kept ha) (kept hb) _).mp h

/-- A choice comes to one list. -/
theorem resolves_iff : r.Resolves choice names ↔ names = r.resolveTargets choice := by
  have resolved := r.resolveTargets_resolves choice
  constructor
  · intro h
    -- Both lists have the same members once, in one strict order.
    have same : names.Perm (r.resolveTargets choice) :=
      (List.perm_ext_iff_of_nodup h.nodup resolved.nodup).mpr fun name =>
        (h.mem name).trans (resolved.mem name).symm
    refine same.eq_of_pairwise (fun a b _ _ before after => ?_) h.order resolved.order
    exact absurd (Nat.lt_trans before after) (Nat.lt_irrefl _)
  · rintro rfl
    exact resolved

end Registry

/-! ## The stages -/

/-- A peering joins a VPC, on one side, with another VPC, on the other. -/
inductive VpcPeering.Joins (p : VpcPeering) (v w : Vpc) : PeeringSide → Prop
  | requester (names : p.vpcs = [v.name, w.name]) : p.Joins v w .requester
  | accepter (names : p.vpcs = [w.name, v.name]) : p.Joins v w .accepter

namespace Topology

variable {t : Topology} {v w : Vpc} {scope : Scope}

/-- Names of VPCs do not repeat. -/
theorem Faultless.vpc_names_nodup (h : t.Faultless) : (t.network.vpcs.map (·.name)).Nodup :=
  (vpcFaults_eq_nil_iff.mp h.vpcs).1

/-- Two VPCs of one name are the same. -/
theorem Faultless.vpc_eq (h : t.Faultless) (hv : v ∈ t.network.vpcs) (hw : w ∈ t.network.vpcs)
    (name : v.name = w.name) : v = w :=
  List.inj_on_of_nodup_map h.vpc_names_nodup hv hw name

/-- The accounts in which the stages see a VPC. -/
structure SeenIn (t : Topology) (v : Vpc) (accounts : List String) : Prop where
  /-- If the VPC has an attachment, then its attachments are owned in the accounts. -/
  attachments : ∀ scope ds, t.attachments t.registry scope = .ok ds → ∀ owner,
    (∃ d ∈ ds, d.kind = .vpc ∧ d.child = v.name ∧ d.owner = owner) ↔
      v.attachments ≠ [] ∧ owner.region = v.region ∧ owner.account ∈ accounts
  /-- If the VPC on the other side of a peering is deployed somewhere, then the VPC's ends of
  the connections are in the accounts. -/
  connections : ∀ scope pathPrefix cs, t.connections t.registry scope pathPrefix = .ok cs →
    ∀ p ∈ t.network.vpcPeerings, ∀ w ∈ t.network.vpcs, ∀ side, p.Joins v w side → ∀ place,
      (∃ c ∈ cs, c.name = p.name ∧ (c.endOn side).scope = place) ↔
        t.registry.vpcAccounts w ≠ [] ∧ place.region = v.region ∧ place.account ∈ accounts
  /-- If the VPC lists rules, then the units of the accounts associate it with them. -/
  rules : ∀ scope backend s as s',
    (RuleAssociation.build (t.vantage scope backend) t).run s = .ok as s' →
      ((∃ a ∈ as, a.vpc = v.name) ↔
        v.resolverRules ≠ [] ∧ scope.region = v.region ∧ scope.account ∈ accounts)

/-! ### Attachments -/

theorem vpcAttachment_ok {account : String} {a : VpcAttachment} {d : Attachment}
    (made : t.vpcAttachment scope v account a = .ok d) :
    d.kind = .vpc ∧ d.child = v.name ∧ d.owner = ⟨account, v.region⟩ := by
  obtain ⟨g, -, made⟩ := requireGateway_bind_ok made
  split at made
  · cases made
    exact ⟨rfl, rfl, rfl⟩
  · exact nomatch made

/-- An attachment of the sort of VPCs is made from a VPC. -/
theorem vpc_of_described {accounts : Registry} {ds : List Attachment}
    (described : t.attachments accounts scope = .ok ds) {d : Attachment} (hd : d ∈ ds)
    (kind : d.kind = .vpc) :
    ∃ w ∈ t.network.vpcs, ∃ account ∈ accounts.vpcAccounts w, w.attachments ≠ [] ∧
      d.child = w.name ∧ d.owner = ⟨account, w.region⟩ := by
  cases workedOut_of_described described hd with
  | vpc defined deployed attached made =>
    obtain ⟨-, child, owner⟩ := vpcAttachment_ok made
    exact ⟨_, defined, _, deployed, List.ne_nil_of_mem attached, child, owner⟩
  | vpn _ _ made | directConnect _ _ made | peering _ _ made =>
    obtain ⟨g, -, made⟩ := requireGateway_bind_ok made
    cases made
    exact nomatch kind

/-- An attachment of a VPC is described for every account of the VPC. -/
theorem described_of_deployed {accounts : Registry} {ds : List Attachment}
    (described : t.attachments accounts scope = .ok ds) (hv : v ∈ t.network.vpcs)
    {account : String} (deployed : account ∈ accounts.vpcAccounts v) {a : VpcAttachment}
    (attached : a ∈ v.attachments) : ∃ d ∈ ds, t.vpcAttachment scope v account a = .ok d := by
  have listed : t.vpcAttachment scope v account a ∈ t.attachmentResults accounts scope := by
    simp only [attachmentResults, List.mem_append, List.mem_flatMap, List.mem_map]
    exact .inl (.inl (.inl ⟨v, hv, account, deployed, a, attached, rfl⟩))
  exact ok_of_collectOk described listed

theorem Faultless.owners (h : t.Faultless) (hv : v ∈ t.network.vpcs) {ds : List Attachment}
    (described : t.attachments t.registry scope = .ok ds) (owner : Scope) :
    (∃ d ∈ ds, d.kind = .vpc ∧ d.child = v.name ∧ d.owner = owner) ↔
      v.attachments ≠ [] ∧ owner.region = v.region ∧ owner.account ∈ t.registry.vpcAccounts v := by
  constructor
  · rintro ⟨d, hd, kind, child, rfl⟩
    obtain ⟨w, hw, account, deployed, attached, child', owner⟩ := vpc_of_described described hd kind
    obtain rfl := h.vpc_eq hv hw (child.symm.trans child')
    rw [owner]
    exact ⟨attached, rfl, deployed⟩
  · rintro ⟨attached, region, deployed⟩
    obtain ⟨a, rest, attachments⟩ := List.exists_cons_of_ne_nil attached
    obtain ⟨d, hd, made⟩ := described_of_deployed described hv deployed
      (attachments ▸ List.mem_cons_self)
    obtain ⟨kind, child, owned⟩ := vpcAttachment_ok made
    refine ⟨d, hd, kind, child, ?_⟩
    rw [owned, ← region]

/-! ### Connections -/

section Ends

variable {pathPrefix : String} {cs : List Connection} {p : VpcPeering} {near far : Vpc}

/-- The connections of a peering are those of the pairs of accounts. -/
theorem Faultless.pairs (h : t.Faultless) (made : t.Expansion pathPrefix cs)
    (hp : p ∈ t.network.vpcPeerings) (hnear : near ∈ t.network.vpcs) (hfar : far ∈ t.network.vpcs)
    (names : p.vpcs = [near.name, far.name]) :
    List.Forall₂ (t.Connects pathPrefix p near far) (t.registry.accountPairs near far)
      (cs.filter (·.name == p.name)) := by
  obtain ⟨a, b, names', foundA, foundB, -, connects⟩ := made.pairs p hp
  obtain ⟨nearName, farName⟩ : near.name = a.name ∧ far.name = b.name := by
    simpa using names.symm.trans names'
  rwa [h.vpc_eq hnear (vpc?_some foundA).1 nearName, h.vpc_eq hfar (vpc?_some foundB).1 farName]

/-- A connection of a peering has its ends in accounts of the two VPCs. -/
theorem Faultless.ends_deployed (h : t.Faultless) (made : t.Expansion pathPrefix cs)
    (hp : p ∈ t.network.vpcPeerings) (hnear : near ∈ t.network.vpcs) (hfar : far ∈ t.network.vpcs)
    (names : p.vpcs = [near.name, far.name]) {c : Connection} (hc : c ∈ cs)
    (named : c.name = p.name) :
    ∃ x ∈ t.registry.vpcAccounts near, ∃ y ∈ t.registry.vpcAccounts far,
      c.requester.scope = ⟨x, near.region⟩ ∧ c.accepter.scope = ⟨y, far.region⟩ := by
  obtain ⟨⟨x, y⟩, hpair, connects⟩ := exists_of_forall₂ (h.pairs made hp hnear hfar names)
    (List.mem_filter.mpr ⟨hc, beq_iff_eq.mpr named⟩)
  obtain ⟨hx, hy⟩ := List.mem_product.mp hpair
  exact ⟨x, hx, y, hy, connects.requester.scope, connects.accepter.scope⟩

/-- Any two accounts of the two VPCs are connected. -/
theorem Faultless.connected (h : t.Faultless) (made : t.Expansion pathPrefix cs)
    (hp : p ∈ t.network.vpcPeerings) (hnear : near ∈ t.network.vpcs) (hfar : far ∈ t.network.vpcs)
    (names : p.vpcs = [near.name, far.name]) {x y : String}
    (hx : x ∈ t.registry.vpcAccounts near) (hy : y ∈ t.registry.vpcAccounts far) :
    ∃ c ∈ cs, c.name = p.name ∧ c.requester.scope = ⟨x, near.region⟩ ∧
      c.accepter.scope = ⟨y, far.region⟩ := by
  obtain ⟨c, hc, connects⟩ := exists_of_forall₂ (h.pairs made hp hnear hfar names).flip
    (List.mem_product.mpr ⟨hx, hy⟩)
  exact ⟨c, (List.mem_filter.mp hc).1, connects.name, connects.requester.scope,
    connects.accepter.scope⟩

theorem Faultless.ends (h : t.Faultless) (made : t.Expansion pathPrefix cs)
    (hp : p ∈ t.network.vpcPeerings) (hv : v ∈ t.network.vpcs) (hw : w ∈ t.network.vpcs)
    {side : PeeringSide} (joins : p.Joins v w side) (place : Scope) :
    (∃ c ∈ cs, c.name = p.name ∧ (c.endOn side).scope = place) ↔
      t.registry.vpcAccounts w ≠ [] ∧ place.region = v.region ∧
        place.account ∈ t.registry.vpcAccounts v := by
  cases joins with
  | requester names =>
    constructor
    · rintro ⟨c, hc, named, rfl⟩
      obtain ⟨x, hx, y, hy, here, -⟩ := h.ends_deployed made hp hv hw names hc named
      rw [Connection.endOn, here]
      exact ⟨List.ne_nil_of_mem hy, rfl, hx⟩
    · rintro ⟨elsewhere, region, hx⟩
      obtain ⟨y, hy⟩ := List.exists_mem_of_ne_nil _ elsewhere
      obtain ⟨c, hc, named, here, -⟩ := h.connected made hp hv hw names hx hy
      rw [← region] at here
      exact ⟨c, hc, named, here⟩
  | accepter names =>
    constructor
    · rintro ⟨c, hc, named, rfl⟩
      obtain ⟨x, hx, y, hy, -, here⟩ := h.ends_deployed made hp hw hv names hc named
      rw [Connection.endOn, here]
      exact ⟨List.ne_nil_of_mem hx, rfl, hy⟩
    · rintro ⟨elsewhere, region, hy⟩
      obtain ⟨x, hx⟩ := List.exists_mem_of_ne_nil _ elsewhere
      obtain ⟨c, hc, named, -, here⟩ := h.connected made hp hw hv names hx hy
      rw [← region] at here
      exact ⟨c, hc, named, here⟩

end Ends

end Topology

/-! ### Rules -/

namespace RuleAssociation

variable {v : Vantage} {t : Topology}

theorem plan_names {vpc : Vpc} {vpcId name : String} {a : RuleAssociation} {s s' : Run}
    (run : (plan v t vpc vpcId name).run s = .ok a s') : a.vpc = vpc.name ∧ a.rule = name := by
  obtain ⟨rule, s₁, required, run⟩ := run_bind_ok.mp run
  obtain ⟨ruleId, s₂, -, last⟩ := run_bind_ok.mp run
  obtain ⟨rfl, -⟩ := run_pure_ok.mp last
  have required := (Lookup.run_ofExcept_ok.mp required).1
  unfold requireRule at required
  cases found : t.resolverRule? name with
  | none =>
    rw [found] at required
    exact nomatch required
  | some other =>
    simp only [found] at required
    split at required
    · cases required
      exact ⟨rfl, (Topology.resolverRule?_some found).2⟩
    · exact nomatch required

theorem planRules_names {vpc : Vpc} {vpcId : String} :
    ∀ {names : List String} {as : List RuleAssociation} {s s' : Run},
      (planRules v t vpc vpcId names).run s = .ok as s' →
        as.map (fun a => (a.vpc, a.rule)) = names.map (vpc.name, ·)
  | [], as, s, s', run => by
    obtain ⟨rfl, -⟩ := run_pure_ok.mp run
    rfl
  | name :: rest, as, s, s', run => by
    obtain ⟨a, s₁, one, run⟩ := run_bind_ok.mp run
    obtain ⟨others, s₂, more, last⟩ := run_bind_ok.mp run
    obtain ⟨rfl, -⟩ := run_pure_ok.mp last
    obtain ⟨ofVpc, ofRule⟩ := plan_names one
    rw [List.map_cons, List.map_cons, ofVpc, ofRule, planRules_names more]

/-- The associations of some VPCs are those with the rules that each of them lists. -/
theorem planVpcs_names :
    ∀ {vpcs : List Vpc} {as : List RuleAssociation} {s s' : Run},
      (planVpcs v t vpcs).run s = .ok as s' →
        as.map (fun a => (a.vpc, a.rule)) =
          vpcs.flatMap fun vpc => vpc.resolverRules.map (vpc.name, ·)
  | [], as, s, s', run => by
    obtain ⟨rfl, -⟩ := run_pure_ok.mp run
    rfl
  | vpc :: rest, as, s, s', run => by
    obtain ⟨vpcId, s₁, -, run⟩ := run_bind_ok.mp run
    obtain ⟨one, s₂, rules, run⟩ := run_bind_ok.mp run
    obtain ⟨others, s₃, more, last⟩ := run_bind_ok.mp run
    obtain ⟨rfl, -⟩ := run_pure_ok.mp last
    rw [List.map_append, List.flatMap_cons, planRules_names rules, planVpcs_names more]

end RuleAssociation

namespace Topology

variable {t : Topology} {v : Vpc}

theorem concerns_vantage {scope : Scope} (backend : Backend) :
    RuleAssociation.concerns (t.vantage scope backend) v = true ↔
      v.resolverRules ≠ [] ∧ scope.region = v.region ∧
        scope.account ∈ t.registry.vpcAccounts v := by
  simp only [RuleAssociation.concerns, vantage, Bool.and_eq_true, Bool.not_eq_true',
    List.isEmpty_eq_false_iff, beq_iff_eq, List.contains_iff_mem, and_assoc,
    eq_comm (a := v.region)]

theorem Faultless.associated (h : t.Faultless) (hv : v ∈ t.network.vpcs) {scope : Scope}
    {backend : Backend} {s s' : Run} {as : List RuleAssociation}
    (run : (RuleAssociation.build (t.vantage scope backend) t).run s = .ok as s') :
    (∃ a ∈ as, a.vpc = v.name) ↔
      v.resolverRules ≠ [] ∧ scope.region = v.region ∧
        scope.account ∈ t.registry.vpcAccounts v := by
  have names := RuleAssociation.planVpcs_names run
  rw [← concerns_vantage backend]
  constructor
  · rintro ⟨a, ha, named⟩
    have listed := List.mem_map_of_mem (f := fun a : RuleAssociation => (a.vpc, a.rule)) ha
    rw [names] at listed
    obtain ⟨w, hw, listed⟩ := List.mem_flatMap.mp listed
    obtain ⟨rule, -, same⟩ := List.mem_map.mp listed
    obtain ⟨hw, concerned⟩ := List.mem_filter.mp hw
    rwa [h.vpc_eq hv hw (named.symm.trans (Prod.mk.inj same).1.symm)]
  · intro concerned
    obtain ⟨rule, listed⟩ := List.exists_mem_of_ne_nil _ ((concerns_vantage backend).mp concerned).1
    have there : (v.name, rule) ∈ as.map fun a => (a.vpc, a.rule) := by
      rw [names]
      exact List.mem_flatMap.mpr
        ⟨v, List.mem_filter.mpr ⟨hv, concerned⟩, List.mem_map_of_mem listed⟩
    obtain ⟨a, ha, same⟩ := List.mem_map.mp there
    exact ⟨a, ha, (Prod.mk.inj same).1⟩

/-- The stages see a VPC in the accounts that it is deployed to. -/
theorem Faultless.seenIn (h : t.Faultless) (hv : v ∈ t.network.vpcs) :
    t.SeenIn v (t.registry.vpcAccounts v) where
  attachments := fun _ _ described owner => h.owners hv described owner
  connections := by
    intro scope pathPrefix cs made p hp w hw side joins place
    obtain ⟨cs', expansion⟩ := h.expansion pathPrefix
    obtain rfl : cs' = cs := Except.ok.inj ((expansion.made scope).symm.trans made)
    exact h.ends expansion hp hv hw joins place
  rules := fun _ _ _ _ _ run => h.associated hv run

end Topology

/-! ## Choices mean one thing -/

/-- A choice of accounts comes to one list, the accounts that it lists and does not exclude, in
the order of the description; and in a valid topology every stage sees a VPC that is deployed to
the choice in the accounts of that list, so in none that is excluded. -/
theorem deployment_agrees :
    (∀ accounts, (Registry.ofAccounts accounts).Keeps accounts) ∧
    (∀ (r : Registry) (choice : Targets) (names : List String),
      r.Resolves choice names ↔ names = r.resolveTargets choice) ∧
    ∀ t : Topology, t.validate = .ok () → ∀ v ∈ t.network.vpcs, ∀ choice : Targets,
      v.placement = .targets choice →
        t.SeenIn v (t.registry.resolveTargets choice) ∧
          ∀ account ∈ choice.excludedAccounts, account ∉ t.registry.resolveTargets choice := by
  refine ⟨Registry.keeps_ofAccounts, fun _ _ _ => Registry.resolves_iff, ?_⟩
  intro t valid v hv choice placed
  constructor
  · have seen := (Topology.faultless_of_validate valid).seenIn hv
    rwa [Registry.vpcAccounts, placed] at seen
  · intro account excluded member
    exact (((t.registry.resolveTargets_resolves choice).mem account).mp member).2 excluded

/-- A choice that lists a member of a unit beside the unit, and excludes another. -/
def Targets.sample : Targets :=
  { accounts := ["Batch"], organizationalUnits := ["apps"], excludedAccounts := ["Legacy"] }

/-- The sample with a VPC deployed to a choice. -/
def Topology.sampleChoice : Topology :=
  { sample with
    accounts := sample.accounts ++
      [{ name := "Staging", id := "333333333333", organizationalUnit := some "apps" },
        { name := "Legacy", id := "444444444444", organizationalUnit := some "apps" },
        { name := "Batch", id := "555555555555", organizationalUnit := some "apps" }]
    network := { sample.network with
      vpcs := sample.network.vpcs.map fun v =>
        if v.name = "App" then { v with placement := .targets .sample } else v } }

/-- The VPC is in the accounts `Batch` and `Staging` for every stage: an attachment is owned
there, a connection ends there, and the unit associates the VPC with a rule. The unit of the
excluded account associates it with none. -/
theorem deployment_agrees_sample :
    Topology.sampleChoice.validate = .ok () ∧
    Topology.sampleChoice.registry.resolveTargets .sample = ["Batch", "Staging"] ∧
    (∃ ds, Topology.sampleChoice.attachments Topology.sampleChoice.registry
        ⟨"Network", "us-east-1"⟩ = .ok ds ∧
      ∃ d ∈ ds, d.kind = .vpc ∧ d.child = "App" ∧ d.owner = ⟨"Staging", "us-east-1"⟩) ∧
    (∃ cs, Topology.sampleChoice.connections Topology.sampleChoice.registry
        ⟨"Network", "us-east-1"⟩ "accel" = .ok cs ∧
      ∃ c ∈ cs, c.name = "AppShared" ∧ c.requester.scope = ⟨"Staging", "us-east-1"⟩) ∧
    (∃ as s, (RuleAssociation.build (Topology.sampleChoice.vantage ⟨"Staging", "us-east-1"⟩
        (.fixed fun _ => .value "id")) .sampleChoice).run {} = .ok as s ∧
      ∃ a ∈ as, a.vpc = "App") ∧
    ∃ as s, (RuleAssociation.build (Topology.sampleChoice.vantage ⟨"Legacy", "us-east-1"⟩
        (.fixed fun _ => .value "id")) .sampleChoice).run {} = .ok as s ∧
      ¬∃ a ∈ as, a.vpc = "App" := by
  obtain ⟨v, hv, named, placed, region, attached, listed⟩ :
      ∃ v ∈ Topology.sampleChoice.network.vpcs, v.name = "App" ∧
        v.placement = .targets .sample ∧ v.region = "us-east-1" ∧ v.attachments ≠ [] ∧
        v.resolverRules ≠ [] :=
    ⟨_, List.mem_cons_self, rfl, rfl, rfl, by decide, by decide⟩
  obtain ⟨w, hw, other, elsewhere⟩ : ∃ w ∈ Topology.sampleChoice.network.vpcs,
      w.name = "Shared" ∧ Topology.sampleChoice.registry.vpcAccounts w ≠ [] :=
    ⟨_, List.mem_cons_of_mem _ List.mem_cons_self, rfl, by decide⟩
  obtain ⟨p, hp, peering, names⟩ : ∃ p ∈ Topology.sampleChoice.network.vpcPeerings,
      p.name = "AppShared" ∧ p.vpcs = ["App", "Shared"] :=
    ⟨_, List.mem_cons_self, rfl, rfl⟩
  obtain ⟨-, -, ofValid⟩ := deployment_agrees
  obtain ⟨seen, excluded⟩ := ofValid .sampleChoice rfl v hv .sample placed
  have accounts : Topology.sampleChoice.registry.resolveTargets .sample = ["Batch", "Staging"] := by
    decide +kernel
  have staging : "Staging" ∈ Topology.sampleChoice.registry.resolveTargets .sample := by
    rw [accounts]
    decide
  have legacy : "Legacy" ∉ Topology.sampleChoice.registry.resolveTargets .sample :=
    excluded "Legacy" List.mem_cons_self
  have associates (account : String) (h : ((RuleAssociation.build
      (Topology.sampleChoice.vantage ⟨account, "us-east-1"⟩ (.fixed fun _ => .value "id"))
      .sampleChoice).comesTo fun _ => true) = true) :
      ∃ as s, (RuleAssociation.build (Topology.sampleChoice.vantage ⟨account, "us-east-1"⟩
        (.fixed fun _ => .value "id")) .sampleChoice).run {} = .ok as s ∧
        ((∃ a ∈ as, a.vpc = "App") ↔
          account ∈ Topology.sampleChoice.registry.resolveTargets .sample) := by
    obtain ⟨as, s, run, -⟩ := Lookup.exists_of_comesTo h
    refine ⟨as, s, run, ?_⟩
    rw [← named, seen.rules _ _ _ _ _ run]
    simp [listed, region]
  refine ⟨rfl, accounts, ?_, ?_, ?_, ?_⟩
  · obtain ⟨ds, described⟩ : ∃ ds, Topology.sampleChoice.attachments
        Topology.sampleChoice.registry ⟨"Network", "us-east-1"⟩ = .ok ds := ⟨_, rfl⟩
    have owned := (seen.attachments _ ds described ⟨"Staging", "us-east-1"⟩).mpr
      ⟨attached, region.symm, staging⟩
    rw [named] at owned
    exact ⟨ds, described, owned⟩
  · obtain ⟨cs, expansion⟩ := (Topology.faultless_of_validate (t := .sampleChoice) rfl).expansion
      "accel"
    have joins : p.Joins v w .requester := .requester (by rw [names, named, other])
    have made := expansion.made ⟨"Network", "us-east-1"⟩
    have ends := (seen.connections _ "accel" cs made p hp w hw .requester joins
      ⟨"Staging", "us-east-1"⟩).mpr ⟨elsewhere, region.symm, staging⟩
    rw [peering] at ends
    exact ⟨cs, made, ends⟩
  · obtain ⟨as, s, run, concerned⟩ := associates "Staging" (by decide +kernel)
    exact ⟨as, s, run, concerned.mpr staging⟩
  · obtain ⟨as, s, run, concerned⟩ := associates "Legacy" (by decide +kernel)
    exact ⟨as, s, run, fun some => legacy (concerned.mp some)⟩

end Interlink
