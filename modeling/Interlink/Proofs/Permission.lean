import Interlink.Proofs.Attachments
import Interlink.Proofs.Lookup
import Interlink.UnitMap

/-!
# What a unit may ask

A unit reads its own values in its own scope, reads those of other scopes under
the identity that belongs to their owner, looks for what other accounts of its
region share, and asks for an attachment of another owner only with a gateway id
that it has read for a gateway of its own. `Permitted` is that list, question by
question, given the exchanges before.

An identity is kept under its purpose and owner without its role, and so a
question is permitted only if every identity that is kept is the one that would
be made now. A gateway id reaches a question through the values that are
remembered. Both are part of the invariant, `Disciplined`, and the laws below
say that learning a value and resolving an attachment keep it.
-/

namespace Interlink

namespace Vantage

/-! ## Identities -/

/-- The role for a purpose and an owner: none where the unit reads in its own
account and home region. -/
def roleFor (v : Vantage) (purpose : RolePurpose) (owner : Scope) : Option String :=
  if purpose = .parameterShare ∧ owner.account = v.caller.account ∧ owner.region = v.homeRegion then
    none
  else some (purpose.roleName v.pathPrefix owner.region)

theorem roleFor_other {v : Vantage} {owner : Scope} (other : owner.account ≠ v.caller.account)
    (purpose : RolePurpose) :
    v.roleFor purpose owner = some (purpose.roleName v.pathPrefix owner.region) :=
  if_neg fun h => other h.2.1

/-- The identity for a purpose and an owner: the owner's scope, the id of the
owner's account, and the role. -/
structure Canonical (v : Vantage) (purpose : RolePurpose) (owner : Scope) (i : Identity) :
    Prop where
  scope : i.scope = owner
  accountId : v.accounts.accountId? owner.account = some i.accountId
  role : i.roleName = v.roleFor purpose owner

/-- There is one identity for a purpose and an owner. -/
theorem Canonical.unique {v : Vantage} {purpose : RolePurpose} {owner : Scope} {i j : Identity}
    (hi : v.Canonical purpose owner i) (hj : v.Canonical purpose owner j) : i = j := by
  have scope : (⟨i.account, i.region⟩ : Scope) = ⟨j.account, j.region⟩ :=
    hi.scope.trans hj.scope.symm
  have id : i.accountId = j.accountId := Option.some.inj (hi.accountId.symm.trans hj.accountId)
  have role : i.roleName = j.roleName := hi.role.trans hj.role.symm
  cases i
  cases j
  simp only [Scope.mk.injEq] at scope id role
  rw [scope.1, scope.2, id, role]

/-- Every identity that is kept is the one for its key. -/
def Vetted (v : Vantage) (s : Run) : Prop :=
  ∀ (key : HelperKey) (i : Identity), s.helpers.get? key = some i →
    v.Canonical key.purpose ⟨key.account, key.region⟩ i

theorem vetted_start (v : Vantage) : v.Vetted {} := by
  intro key i found
  exact nomatch found

theorem Vetted.enlist {v : Vantage} {s : Run} (h : v.Vetted s) {key : HelperKey} {i : Identity}
    (canonical : v.Canonical key.purpose ⟨key.account, key.region⟩ i) :
    v.Vetted (s.enlist key i) := by
  intro key' i' found
  have found : ((s.helpers.get? key').or (if key' == key then some i else none)) = some i' :=
    (Memo.get?_record s.helpers key key' i).symm.trans found
  cases kept : s.helpers.get? key' with
  | some earlier =>
    rw [kept, Option.some_or] at found
    cases found
    exact h key' _ kept
  | none =>
    rw [kept, Option.none_or] at found
    by_cases same : key' = key
    · simp only [same, beq_self_eq_true, if_true, Option.some.injEq] at found
      rw [same, ← found]
      exact canonical
    · simp [same] at found

/-- An identity that is asked for with its role is the one for its key, whether
it is kept already or not. -/
theorem identity_vetted {v : Vantage} {J : Run → Prop} (vetted : ∀ s, J s → v.Vetted s)
    (enlist : ∀ s key i, J s → v.Canonical key.purpose ⟨key.account, key.region⟩ i →
      J (s.enlist key i))
    {purpose : RolePurpose} {owner : Scope} {role : Option String}
    (canonical : role = v.roleFor purpose owner) :
    Lookup.Meets J (v.identity purpose owner role)
      (fun i s => J s ∧ v.Canonical purpose owner i) J := by
  refine meets_identity (fun s i _ hs _ kept => ⟨hs, vetted s hs _ i kept⟩)
    (fun s id hs member _ => ?_) fun s hs _ => hs
  have new : v.Canonical purpose owner ⟨owner.account, id, owner.region, role⟩ :=
    ⟨rfl, member, canonical⟩
  exact ⟨enlist s _ _ hs new, new⟩

/-! ## Ways to fetch a value -/

/-- Whether a value is looked for in its owner's share. -/
def looksInShare (v : Vantage) (kind : ResourceKind) (owner : Scope) : Bool :=
  !owner.sameAccount v.caller && owner.sameRegion v.caller && kind.shareable

theorem looksInShare_iff {v : Vantage} {kind : ResourceKind} {owner : Scope} :
    v.looksInShare kind owner = true ↔ owner.account ≠ v.caller.account ∧
      owner.region = v.caller.region ∧ kind.shareable = true := by
  simp [looksInShare, Scope.sameAccount, Scope.sameRegion, and_assoc]

/-- There are three ways to fetch a value: from the unit's own store, through a
share, and from its owner's store under the role for reading there. -/
theorem fetch_eq (v : Vantage) (r : Reference) (owner : Scope) :
    v.fetch r owner =
      if owner = v.caller then v.askFor r.path owner (.localValue owner r.path)
      else if v.looksInShare r.kind owner then v.readShared r owner
      else v.readRemote r owner (v.roleFor .parameterShare owner) := by
  unfold fetch strategy
  by_cases same : owner = v.caller
  · rw [if_pos same, if_pos same]
  · rw [if_neg same, if_neg same]
    by_cases account : owner.account = v.caller.account
    · have own : owner.sameAccount v.caller = true := beq_iff_eq.mpr account
      have alone : v.looksInShare r.kind owner = false := by simp [looksInShare, own]
      have role : v.roleFor .parameterShare owner = if owner.region = v.homeRegion then none
          else some (RolePurpose.parameterShare.roleName v.pathPrefix owner.region) := by
        simp [roleFor, account]
      rw [if_pos own, alone, role]
      rfl
    · have other : ¬ owner.sameAccount v.caller = true := fun h => account (beq_iff_eq.mp h)
      have shares : v.looksInShare r.kind owner =
          (owner.sameRegion v.caller && r.kind.shareable) := by
        simp [looksInShare, other]
      rw [if_neg other, shares, roleFor_other account]
      cases owner.sameRegion v.caller && r.kind.shareable <;> rfl

/-! ## Questions -/

/-- What accounts share: their gateways and their rules. -/
inductive Offered (t : Topology) : ResourceKind → String → Scope → Prop
  | gateway {g : Gateway} (defined : g ∈ t.network.gateways) :
      Offered t .transitGateway g.name ⟨g.account, g.region⟩
  | rule {r : ResolverRule} (defined : r ∈ t.network.resolverRules) :
      Offered t .resolverRule r.name ⟨r.account, r.region⟩

/-- A question that a unit may ask after some exchanges. -/
inductive Permitted (v : Vantage) (t : Topology) (past : List Exchange) : Query → Prop
  /-- The unit reads in its own scope. -/
  | own {path : String} : Permitted v t past (.localValue v.caller path)
  /-- The unit reads in another scope, under the identity for reading there. -/
  | foreign {owner : Scope} {i : Identity} {path : String} (other : owner ≠ v.caller)
      (identity : v.Canonical .parameterShare owner i) :
      Permitted v t past (.remoteValue i path)
  /-- The unit looks for what another account of its region shares. -/
  | shared {kind : ResourceKind} {name id : String} {owner : Scope}
      (offered : Offered t kind name owner) (other : owner.account ≠ v.caller.account)
      (region : owner.region = v.caller.region)
      (member : v.accounts.accountId? owner.account = some id) :
      Permitted v t past (.share kind name id owner.region)
  /-- The unit asks for the attachment of another account's VPC to one of its
  own gateways, whose id it has read. -/
  | attached {ds : List Attachment} {a : Attachment} {g : Gateway} {i : Identity}
      {gatewayId : String} (described : t.attachments v.accounts v.caller = .ok ds)
      (listed : a ∈ ds) (kind : a.kind = .vpc) (other : a.owner.account ≠ v.caller.account)
      (region : a.owner.region = v.caller.region)
      (identity : v.Canonical .describeAttachments a.owner i)
      (gateway : g ∈ UnitMap.ownGateways t v.caller) (name : g.name = a.gateway)
      (account : g.account = a.gatewayAccount)
      (read : ⟨.localValue v.caller ((Published.transitGateway g.name).path v.pathPrefix),
        .value gatewayId⟩ ∈ past) :
      Permitted v t past (.attachment i gatewayId a.name)

/-! ## Discipline -/

/-- A run in which every question was permitted when it was asked, every
identity is the one for its key, and every value of the unit that is remembered
was read in the unit's scope. -/
structure Disciplined (v : Vantage) (t : Topology) (s : Run) : Prop where
  permitted : ∀ {past : List Exchange} {e : Exchange},
    past ++ [e] <+: s.exchanges → v.Permitted t past e.query
  identities : ∀ {key : HelperKey} {i : Identity}, s.helpers.get? key = some i →
    v.Canonical key.purpose ⟨key.account, key.region⟩ i
  own : ∀ {path value : String}, s.Knows ⟨path, v.caller⟩ value →
    ⟨.localValue v.caller path, .value value⟩ ∈ s.exchanges

variable {v : Vantage} {t : Topology} {s : Run}

theorem disciplined_start : v.Disciplined t {} where
  permitted h := absurd h Run.not_asked_start
  identities h := nomatch h
  own h := nomatch h

theorem Disciplined.note (h : v.Disciplined t s) (key : RecallKey) :
    v.Disciplined t (s.note key) where
  permitted hp := h.permitted (by simpa using hp)
  identities := h.identities
  own hk := by simpa using h.own (Run.knows_note.mp hk)

theorem Disciplined.hit (h : v.Disciplined t s) : v.Disciplined t s.hit :=
  ⟨h.permitted, h.identities, h.own⟩

theorem Disciplined.exchange (h : v.Disciplined t s) {q : Query} {a : Answer}
    (permitted : v.Permitted t s.exchanges q) : v.Disciplined t (s.exchange q a) where
  permitted hp := by
    rcases Run.asked_exchange.mp hp with ⟨rfl, rfl⟩ | earlier
    · exact permitted
    · exact h.permitted earlier
  identities := h.identities
  own hk := by
    rw [Run.exchanges_exchange]
    exact List.mem_append_left _ (h.own (Run.knows_exchange.mp hk))

/-- A value of the unit itself may be remembered once it has been read. -/
theorem Disciplined.remember (h : v.Disciplined t s) {key : RecallKey} {value : String}
    (read : key.owner = v.caller →
      ⟨.localValue v.caller key.path, .value value⟩ ∈ s.exchanges) :
    v.Disciplined t (s.remember key value) where
  permitted := h.permitted
  identities := h.identities
  own hk := by
    rcases Run.knows_remember.mp hk with known | ⟨-, rfl, rfl⟩
    · exact h.own known
    · exact read rfl

theorem Disciplined.enlist (h : v.Disciplined t s) {key : HelperKey} {i : Identity}
    (canonical : v.Canonical key.purpose ⟨key.account, key.region⟩ i) :
    v.Disciplined t (s.enlist key i) where
  permitted := h.permitted
  identities := Vetted.enlist (fun _ _ kept => h.identities kept) canonical _ _
  own := h.own

/-! ## Asking -/

open Lookup

/-- A question that is permitted where it is asked: what it answers has been
exchanged. -/
theorem askFor_disciplined {pre : Run → Prop} {path : String} {owner : Scope} {q : Query}
    (permitted : ∀ s, pre s → v.Disciplined t s ∧ v.Permitted t s.exchanges q) :
    Meets pre (v.askFor path owner q)
      (fun found s => v.Disciplined t s ∧
        ∀ value, found = some value → ⟨q, .value value⟩ ∈ s.exchanges)
      (v.Disciplined t) := by
  refine meets_askFor (fun s x hs => ⟨?_, ?_⟩) (fun s hs => ⟨?_, fun _ h => nomatch h⟩)
    fun s e hs => ?_
  · exact (permitted s hs).1.exchange (permitted s hs).2
  · rintro _ ⟨rfl⟩
    simp
  · exact (permitted s hs).1.exchange (permitted s hs).2
  · exact (permitted s hs).1.exchange (permitted s hs).2

theorem identity_disciplined {purpose : RolePurpose} {owner : Scope} {role : Option String}
    (canonical : role = v.roleFor purpose owner) :
    Meets (v.Disciplined t) (v.identity purpose owner role)
      (fun i s => v.Disciplined t s ∧ v.Canonical purpose owner i) (v.Disciplined t) :=
  identity_vetted (fun _ hs _ _ kept => hs.identities kept) (fun _ _ _ hs new => hs.enlist new)
    canonical

theorem readRemote_disciplined {r : Reference} {owner : Scope} {role : Option String}
    (other : owner ≠ v.caller) (canonical : role = v.roleFor .parameterShare owner) :
    Keeps (v.Disciplined t) (v.readRemote r owner role) := by
  refine (identity_disciplined canonical).bind _ fun i => ?_
  exact (askFor_disciplined fun s hs => ⟨hs.1, .foreign other hs.2⟩).mono fun _ _ hs => hs.1

/-- Only what an account shares is looked for in its share. -/
theorem readShared_disciplined {r : Reference} {owner : Scope}
    (other : owner.account ≠ v.caller.account) (region : owner.region = v.caller.region)
    (offered : Offered t r.kind r.name owner) :
    Keeps (v.Disciplined t) (v.readShared r owner) := by
  refine Meets.bind (fun id s => v.Disciplined t s ∧ v.accounts.accountId? owner.account = some id)
    (meets_ofExcept (fun id found s hs => ⟨hs, requireId_ok found⟩) fun _ hs => hs) fun id => ?_
  refine Meets.bind (fun _ s => v.Disciplined t s)
    ((askFor_disciplined fun s hs => ⟨hs.1, .shared offered other region hs.2⟩).mono
      fun _ _ hs => hs.1) fun found => ?_
  cases found with
  | some value => exact keeps_pure
  | none =>
    exact readRemote_disciplined (fun same => other (congrArg Scope.account same))
      (roleFor_other other _).symm

/-- However a value is fetched, the unit asks only what it may, and what it
fetches from its own scope it has read there. -/
theorem fetch_disciplined {r : Reference} {owner : Scope}
    (offered : r.kind.shareable = true → Offered t r.kind r.name owner) :
    Meets (v.Disciplined t) (v.fetch r owner)
      (fun found s => v.Disciplined t s ∧ ∀ value, found = some value → owner = v.caller →
        ⟨.localValue v.caller r.path, .value value⟩ ∈ s.exchanges)
      (v.Disciplined t) := by
  rw [fetch_eq]
  by_cases same : owner = v.caller
  · rw [if_pos same, same]
    exact (askFor_disciplined fun s hs => ⟨hs, .own⟩).mono
      fun _ _ hs => ⟨hs.1, fun value found _ => hs.2 value found⟩
  · rw [if_neg same]
    have kept : Keeps (v.Disciplined t) (if v.looksInShare r.kind owner then v.readShared r owner
        else v.readRemote r owner (v.roleFor .parameterShare owner)) := by
      split
      · next share =>
        obtain ⟨account, region, shareable⟩ := looksInShare_iff.mp share
        exact readShared_disciplined account region (offered shareable)
      · exact readRemote_disciplined same rfl
    exact kept.mono fun _ _ hs => ⟨hs, fun _ _ own => absurd own same⟩

/-! ## Learning -/

/-- A value is learned under discipline, and remembered. -/
theorem learn_disciplined {p : Published} {owner : Scope}
    (offered : p.kind.shareable = true → Offered t p.kind p.name owner) :
    Meets (v.Disciplined t) (v.learn p owner)
      (fun value s => v.Disciplined t s ∧ s.Knows ⟨p.path v.pathPrefix, owner⟩ value)
      (v.Disciplined t) :=
  meets_recalled (fun _ hs => hs.note _) (fun _ hs => hs.hit)
    (fetch_disciplined (r := p.reference v.pathPrefix) offered)
    (fun _ value hs => hs.1.remember (hs.2 value rfl)) fun _ hs => hs.1

/-- Most values are not shared, and may be learned from anybody. -/
theorem learn_keeps {p : Published} {owner : Scope} (h : p.kind.shareable = false) :
    Keeps (v.Disciplined t) (v.learn p owner) :=
  (learn_disciplined fun shareable => nomatch h.symm.trans shareable).mono fun _ _ hs => hs.1

/-- The unit has read the id of one of its gateways. -/
def Reads (v : Vantage) (t : Topology) (gateway account gatewayId : String) (s : Run) : Prop :=
  ∃ g ∈ UnitMap.ownGateways t v.caller, g.name = gateway ∧ g.account = account ∧
    s.Knows ⟨(Published.transitGateway g.name).path v.pathPrefix, v.caller⟩ gatewayId

theorem stable_reads (gateway account gatewayId : String) :
    Run.Stable (v.Reads t gateway account gatewayId) := by
  rintro s s' continues ⟨g, hg, name, account, known⟩
  exact ⟨g, hg, name, account, continues.knows known⟩

/-- The id of an attachment. That of another owner is asked for with the id of
an own gateway, which must have been read. -/
theorem resolveAttachment_disciplined {ds : List Attachment} {a : Attachment}
    (gatewayId : String) (described : t.attachments v.accounts v.caller = .ok ds) (listed : a ∈ ds)
    (other : a.owner ≠ v.caller → a.kind = .vpc ∧ a.owner.account ≠ v.caller.account ∧
      a.owner.region = v.caller.region) :
    Meets (fun s => v.Disciplined t s ∧
        (a.owner ≠ v.caller → v.Reads t a.gateway a.gatewayAccount gatewayId s))
      (v.resolveAttachment a.kind a.child a.name gatewayId a.owner)
      (fun _ s => v.Disciplined t s) (v.Disciplined t) := by
  unfold resolveAttachment
  by_cases own : a.owner = v.caller
  · simp only [own, if_true]
    exact (learn_keeps (p := .attachment a.kind a.child a.name) rfl).weaken (fun _ hs => hs.1)
      (fun _ _ hs => hs) fun _ hs => hs
  · obtain ⟨kind, account, region⟩ := other own
    rw [if_neg own]
    have stable := v.stable_reads (t := t) a.gateway a.gatewayAccount gatewayId
    have asked : Meets
        (fun s => v.Disciplined t s ∧ v.Reads t a.gateway a.gatewayAccount gatewayId s)
        (do
          let identity ← v.identity .describeAttachments a.owner
            (some (RolePurpose.describeAttachments.roleName v.pathPrefix a.owner.region))
          v.askFor ((Published.attachment a.kind a.child a.name).path v.pathPrefix) a.owner
            (.attachment identity gatewayId a.name))
        (fun _ s => v.Disciplined t s) (v.Disciplined t) := by
      refine Meets.bind _ ((identity_disciplined rfl).and_stable stable) fun i => ?_
      refine (askFor_disciplined fun s hs => ?_).mono fun _ _ hs => hs.1
      obtain ⟨⟨hs, canonical⟩, g, hg, name, gatewayAccount, known⟩ := hs
      exact ⟨hs, .attached described listed kind account region canonical hg name gatewayAccount
        (hs.own known)⟩
    have kept := (asked.frame stable).weaken (fun s hs => (⟨hs, hs.2⟩ : (_ ∧ _) ∧ _))
      (fun _ _ hs => hs) fun _ hs => hs
    refine (meets_recalled (J := fun s => v.Disciplined t s ∧
      v.Reads t a.gateway a.gatewayAccount gatewayId s) (fun _ hs => ⟨hs.1.note _, hs.2⟩)
      (fun _ hs => ⟨hs.1.hit, hs.2⟩) kept (fun s value hs => ?_) fun _ hs => hs).weaken
      (fun _ hs => ⟨hs.1, hs.2 own⟩) (fun _ _ hs => hs.1.1) fun _ hs => hs.1
    exact ⟨hs.1.remember fun same => absurd same own, stable (.remember ..) hs.2⟩

end Vantage

end Interlink
