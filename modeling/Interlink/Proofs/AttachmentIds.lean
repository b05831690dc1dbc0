import Interlink.Proofs.Sources
import Interlink.Proofs.Walks

/-!
# Where the ids of attachments come from

Every id of an attachment in the map of a unit is remembered under a key that the
attachment determines, given the id of its gateway (`UnitMap.build_keyed`). What is
remembered for an attachment of another owner is what the provisioning interface has
answered for the attachment's name on this gateway (`Vantage.Attested`). The second
needs names without slashes: the key of such an attachment is its path with the id of
the gateway behind it, and slashes in names can make two of these paths the same.

Together they say of every foreign attachment in a map which question its id
answers (`UnitMap.build_attests`).
-/

namespace Interlink

open Lookup

/-- What tells attachments apart: what is attached to which gateway, and whose it is. -/
structure AttachmentPlace where
  gateway : String
  gatewayAccount : String
  child : String
  owner : Scope
deriving DecidableEq, Repr, Inhabited

namespace Attachment

/-- The place of an attachment. -/
def place (a : Attachment) : AttachmentPlace := ⟨a.gateway, a.gatewayAccount, a.child, a.owner⟩

/-- What the owner of an attachment publishes of it. -/
def published (a : Attachment) : Published := .attachment a.kind a.child a.name

end Attachment

namespace Vantage

variable {v : Vantage} {s : Run} {a : Attachment} {gatewayId : String}

/-! ## Remembering -/

/-- What the id of an attachment is remembered under. -/
def attachmentKey (v : Vantage) (a : Attachment) (gatewayId : String) : RecallKey :=
  if a.owner = v.caller then ⟨a.published.path v.pathPrefix, a.owner⟩
  else attachmentRecallKey (a.published.path v.pathPrefix) gatewayId a.owner

theorem attachmentKey_own (own : a.owner = v.caller) :
    v.attachmentKey a gatewayId = ⟨a.published.path v.pathPrefix, a.owner⟩ := if_pos own

theorem attachmentKey_foreign (foreign : a.owner ≠ v.caller) :
    v.attachmentKey a gatewayId =
      attachmentRecallKey (a.published.path v.pathPrefix) gatewayId a.owner := if_neg foreign

/-- The id of an attachment is remembered. -/
theorem resolveAttachment_knows :
    Meets (fun _ => True) (v.resolveAttachment a.kind a.child a.name gatewayId a.owner)
      (fun id s => s.Knows (v.attachmentKey a gatewayId) id) fun _ => True := by
  have recalled {key : RecallKey} {path : String} {fetch : Lookup (Option String)}
      (fetched : Keeps (fun _ => True) fetch) :
      Meets (fun _ => True) (recalled key path fetch) (fun id s => s.Knows key id)
        fun _ => True :=
    (meets_recalled (fun _ hs => hs) (fun _ hs => hs) fetched (fun _ _ hs => hs)
      fun _ hs => hs).mono fun _ _ hs => hs.2
  have unmoved := Run.indifferent_true.unmoved
  unfold resolveAttachment attachmentKey
  dsimp only
  split
  · exact recalled (fetch_keeps unmoved)
  · exact recalled ((identity_keeps unmoved).bind fun _ => askFor_keeps unmoved)

/-! ## Asking -/

/-- The provisioning interface has answered for a name on a gateway, under the identity that
is kept for the owner. -/
def Attests (s : Run) (owner : Scope) (gatewayId name value : String) : Prop :=
  ∃ i, s.helpers.get? ⟨.describeAttachments, owner.account, owner.region⟩ = some i ∧
    ⟨.attachment i gatewayId name, .value value⟩ ∈ s.exchanges

/-- What is remembered of the attachments of other owners has been answered for them. -/
def Attested (v : Vantage) (s : Run) : Prop :=
  ∀ (kind : AttachmentKind) (child name gatewayId : String) (owner : Scope) (value : String),
    (Published.attachment kind child name).Plain → owner ≠ v.caller →
    s.Knows (attachmentRecallKey ((Published.attachment kind child name).path v.pathPrefix)
      gatewayId owner) value →
    Attests s owner gatewayId name value

theorem attested_start (v : Vantage) : v.Attested {} :=
  fun _ _ _ _ _ _ _ _ known => nomatch known

theorem Attests.exchange {owner : Scope} {name value : String}
    (h : Attests s owner gatewayId name value) (q : Query) (answer : Answer) :
    Attests (s.exchange q answer) owner gatewayId name value := by
  obtain ⟨i, kept, asked⟩ := h
  refine ⟨i, kept, ?_⟩
  rw [Run.exchanges_exchange]
  exact List.mem_append_left _ asked

/-- An identity that is kept stays. -/
theorem Attests.enlist {owner : Scope} {name value : String}
    (h : Attests s owner gatewayId name value) (key : HelperKey) (i : Identity) :
    Attests (s.enlist key i) owner gatewayId name value := by
  obtain ⟨kept, found, asked⟩ := h
  refine ⟨kept, ?_, asked⟩
  show (s.helpers.record key i).get? _ = some kept
  rw [Memo.get?_record, found, Option.some_or]

theorem unmoved_attested (v : Vantage) : Run.Unmoved v.Attested where
  exchange q answer hs := fun kind child name gatewayId owner value plain other known =>
    (hs kind child name gatewayId owner value plain other known).exchange q answer
  enlist key i hs := fun kind child name gatewayId owner value plain other known =>
    (hs kind child name gatewayId owner value plain other known).enlist key i

theorem Attested.note (h : v.Attested s) (key : RecallKey) : v.Attested (s.note key) := by
  intro kind child name gatewayId owner value plain other known
  obtain ⟨i, kept, asked⟩ := h kind child name gatewayId owner value plain other known
  exact ⟨i, kept, by simpa using asked⟩

theorem Attested.remember (h : v.Attested s) {key : RecallKey} {value : String}
    (new : ∀ kind child name gatewayId owner, (Published.attachment kind child name).Plain →
      owner ≠ v.caller → key = attachmentRecallKey
        ((Published.attachment kind child name).path v.pathPrefix) gatewayId owner →
      Attests s owner gatewayId name value) : v.Attested (s.remember key value) := by
  intro kind child name gatewayId owner value' plain other known
  rcases Run.knows_remember.mp known with old | ⟨-, same, rfl⟩
  · exact h kind child name gatewayId owner value' plain other old
  · exact new kind child name gatewayId owner plain other same.symm

/-- Neither the unit's own values nor those of gateways are taken for those of attachments of
other owners. -/
theorem learn_attested {p : Published} {owner : Scope}
    (elsewhere : owner = v.caller ∨ p.ofGateway = true) :
    Keeps v.Attested (v.learn p owner) := by
  refine (meets_recalled (fun _ hs => hs.note _) (fun _ hs => hs)
    (fetch_keeps (unmoved_attested v)) (fun s value hs => ?_) fun _ hs => hs).mono
      fun _ _ hs => hs.1
  refine hs.remember fun kind child name gatewayId owner' _ other same => ?_
  obtain ⟨path, rfl⟩ := RecallKey.mk.inj same
  rcases elsewhere with own | gateway
  · exact absurd own other
  · rw [String.append_assoc] at path
    exact (Published.path_ne_attachment gateway v.pathPrefix kind child name _ path).elim

/-- The identity that is asked for is kept. -/
theorem identity_kept {J : Run → Prop} (h : Run.Unmoved J) {purpose : RolePurpose}
    {owner : Scope} {role : Option String} :
    Meets J (v.identity purpose owner role)
      (fun i s => J s ∧ s.helpers.get? ⟨purpose, owner.account, owner.region⟩ = some i) J := by
  refine meets_identity (fun s i _ hs _ kept => ⟨hs, kept⟩) (fun s id hs _ new => ?_)
    fun _ hs _ => hs
  refine ⟨h.enlist _ _ hs, ?_⟩
  show (s.helpers.record _ _).get? _ = _
  rw [Memo.get?_record, new, Option.none_or, beq_self_eq_true, if_pos rfl]

/-- Once an attachment has been asked for, what is found has been answered for it. -/
theorem askAttachment_attests {owner : Scope} {role : Option String} {path name : String} :
    Meets v.Attested
      (do
        let identity ← v.identity .describeAttachments owner role
        v.askFor path owner (.attachment identity gatewayId name))
      (fun found s => v.Attested s ∧
        ∀ value, found = some value → Attests s owner gatewayId name value) v.Attested := by
  refine (identity_kept (unmoved_attested v)).bind _ fun i => ?_
  have asked (s : Run) (answer : Answer) (hs : v.Attested s) :
      v.Attested (s.exchange (.attachment i gatewayId name) answer) :=
    (unmoved_attested v).exchange _ _ hs
  apply meets_askFor
  · intro s x hs
    refine ⟨asked s _ hs.1, ?_⟩
    rintro _ ⟨rfl⟩
    exact ⟨i, hs.2, by simp⟩
  · intro s hs
    exact ⟨asked s _ hs.1, fun _ none => nomatch none⟩
  · intro s e hs
    exact asked s _ hs.1

/-- An attachment of another owner is asked for by its name on the gateway. -/
theorem resolveAttachment_attested (plain : a.published.Plain) :
    Keeps v.Attested (v.resolveAttachment a.kind a.child a.name gatewayId a.owner) := by
  unfold resolveAttachment
  dsimp only
  split
  · next own => exact learn_attested (p := .attachment a.kind a.child a.name) (.inl own)
  · next other =>
    refine (meets_recalled (fun _ hs => hs.note _) (fun _ hs => hs) askAttachment_attests
      (fun s value hs => ?_) fun _ hs => hs.1).mono fun _ _ hs => hs.1
    refine hs.1.remember fun kind child name gatewayId' owner plain' _ same => ?_
    obtain ⟨path, rfl⟩ := RecallKey.mk.inj same
    rw [String.append_assoc, String.append_assoc] at path
    obtain ⟨-, -, rfl, gateway⟩ := Published.path_attachment_append_injective plain plain' path
    obtain rfl := (String.append_right_inj "@").mp gateway
    exact hs.2 value rfl

end Vantage

/-! ## Names -/

namespace Topology

/-- The names of what is attached to gateways, and those of the attachments. -/
def childNames (t : Topology) : List String :=
  (t.network.vpcs.flatMap fun v => v.name :: v.attachments.map (·.name)) ++
    (t.network.customerGateways.flatMap fun c => c.vpnConnections.map (·.name)) ++
    t.network.directConnectGateways.map (·.name) ++ t.network.gatewayPeerings.map (·.name)

variable {t : Topology} {accounts : Registry} {scope : Scope} {ds : List Attachment}
  {d : Attachment}

theorem mem_childNames (described : t.attachments accounts scope = .ok ds) (hd : d ∈ ds) :
    d.child ∈ t.childNames ∧ d.name ∈ t.childNames := by
  simp only [childNames, List.mem_append, List.mem_flatMap, List.mem_map]
  cases workedOut_of_described described hd with
  | @vpc v _ a defined _ attached made =>
    obtain ⟨g, -, h⟩ := requireGateway_bind_ok made
    split at h
    · cases h
      exact ⟨.inl (.inl (.inl ⟨v, defined, List.mem_cons_self⟩)),
        .inl (.inl (.inl ⟨v, defined, List.mem_cons_of_mem _ (List.mem_map_of_mem attached)⟩))⟩
    · exact nomatch h
  | @vpn c v defined connected made =>
    obtain ⟨g, -, h⟩ := requireGateway_bind_ok made
    cases h
    exact ⟨.inl (.inl (.inr ⟨c, defined, v, connected, rfl⟩)),
      .inl (.inl (.inr ⟨c, defined, v, connected, rfl⟩))⟩
  | @directConnect x _ defined _ made =>
    obtain ⟨g, -, h⟩ := requireGateway_bind_ok made
    cases h
    exact ⟨.inl (.inr ⟨x, defined, rfl⟩), .inl (.inr ⟨x, defined, rfl⟩)⟩
  | @peering p _ defined _ made =>
    obtain ⟨g, -, h⟩ := requireGateway_bind_ok made
    cases h
    exact ⟨.inr ⟨p, defined, rfl⟩, .inr ⟨p, defined, rfl⟩⟩

/-- Where no name holds a slash, attachments are published under segments without slashes. -/
theorem plain_of_described (slashless : ∀ name ∈ t.childNames, '/' ∉ name.toList)
    (described : t.attachments accounts scope = .ok ds) (hd : d ∈ ds) : d.published.Plain := by
  obtain ⟨child, name⟩ := mem_childNames described hd
  exact Published.plain_attachment.mpr ⟨slashless _ child, slashless _ name⟩

end Topology

/-! ## Maps -/

namespace UnitMap

variable {v : Vantage} {t : Topology} {m m' : UnitMap} {s : Run}

/-- The ids of the attachments in a map are remembered. -/
def Keyed (v : Vantage) (m : UnitMap) (s : Run) : Prop :=
  ∀ key x, m.attachments.get? key = some x →
    s.Knows (v.attachmentKey x.descriptor x.gatewayId) x.id

theorem stable_keyed (m : UnitMap) : Run.Stable (Keyed v m) :=
  fun _ _ continues h key x found => continues.knows (h key x found)

theorem Keyed.addAttachment (h : Keyed v m s) {key : String} {x : ResolvedAttachment}
    (known : s.Knows (v.attachmentKey x.descriptor x.gatewayId) x.id) :
    Keyed v (m.addAttachment key x) s := by
  intro key' x' found
  have found : (m.attachments.insert key x).get? key' = some x' := found
  rw [SortedMap.get?_insert] at found
  split at found
  · cases found
    exact known
  · exact h key' x' found

/-- A step that fills the map keeps the ids of its attachments remembered. -/
def Keying (v : Vantage) (m : UnitMap) (x : Lookup UnitMap) : Prop :=
  Meets (Keyed v m) x (fun m' s => Keyed v m' s) fun _ => True

/-- A map with the same attachments is as good. -/
theorem keying_pure (same : m'.attachments = m.attachments) : Keying v m (pure m') := by
  refine meets_pure fun s hs => ?_
  unfold Keyed
  rw [same]
  exact hs

theorem keying_foldlM {α : Type} {f : UnitMap → α → Lookup UnitMap}
    (step : ∀ m a, Keying v m (f m a)) (as : List α) (m : UnitMap) :
    Keying v m (as.foldlM f m) :=
  meets_foldlM_of_mem (fun a _ m => step m a) m

/-- What is learned is no attachment, and the map goes on with its own. -/
theorem keying_learn {p : Published} {owner : Scope} {next : String → Lookup UnitMap}
    (h : ∀ id, Keying v m (next id)) : Keying v m (v.learn p owner >>= next) := by
  have learned : Meets (Keyed v m) (v.learn p owner) (fun _ s => Keyed v m s) fun _ => True :=
    ((Vantage.meets_learn Run.indifferent_true).and_stable (stable_keyed m)).weaken
      (fun _ hs => ⟨trivial, hs⟩) (fun _ _ hs => hs.2) fun _ _ => trivial
  exact learned.bind _ h

theorem resolveGateway_keying (m : UnitMap) (g : Gateway) : Keying v m (resolveGateway v m g) := by
  apply keying_learn
  intro id
  exact keying_foldlM (f := resolveRouteTable v g)
    (fun _ _ => keying_learn fun _ => keying_pure rfl) g.routeTables
    (m.addGateway g.name g.account id)

theorem resolveRemoteRouteTables_keying (m : UnitMap) (a : Attachment) :
    Keying v m (resolveRemoteRouteTables v t m a) := by
  unfold resolveRemoteRouteTables
  split
  · exact keying_pure rfl
  · refine keying_foldlM (fun m table => ?_) _ m
    unfold resolveRemoteRouteTable
    split
    · exact keying_pure rfl
    · exact keying_learn fun _ => keying_pure rfl

/-- What is resolved is remembered, and what the map has stays so. -/
theorem resolved_keyed (m : UnitMap) (a : Attachment) (gatewayId : String) :
    Meets (Keyed v m) (v.resolveAttachment a.kind a.child a.name gatewayId a.owner)
      (fun id s => s.Knows (v.attachmentKey a gatewayId) id ∧ Keyed v m s) fun _ => True :=
  (Vantage.resolveAttachment_knows.and_stable (stable_keyed m)).weaken
    (fun _ hs => ⟨trivial, hs⟩) (fun _ _ hs => hs) fun _ hs => hs

/-- An attachment of the unit needs no gateway to be remembered, and one of another owner is
asked for with the id of its gateway at hand. -/
theorem resolveAttachment_keying (m : UnitMap) (a : Attachment) :
    Keying v m (resolveAttachment v t m a) := by
  rw [resolveAttachment_eq]
  refine (meets_refuse fun _ _ => trivial).bind _ fun _ => Meets.assuming fun _ => ?_
  have tables : Keying v m (if a.owner == v.caller && !ownsGateway v.caller a then
      resolveRemoteRouteTables v t m a else pure m : Lookup UnitMap) := by
    split
    · exact resolveRemoteRouteTables_keying m a
    · exact keying_pure rfl
  refine tables.bind _ fun m₁ => ?_
  refine (meets_refuse fun _ _ => trivial).bind _ fun _ => Meets.assuming fun mine => ?_
  cases known : m₁.gatewayId? a.gateway a.gatewayAccount with
  | some gatewayId =>
    exact (resolved_keyed m₁ a gatewayId).bind _ fun id =>
      meets_pure fun s hs => hs.2.addAttachment hs.1
  | none =>
    rw [known, Option.isNone_none, Bool.true_and, Bool.not_eq_false'] at mine
    have own : a.owner = v.caller := beq_iff_eq.mp mine
    refine (resolved_keyed m₁ a "").bind _ fun id => ?_
    have learned : Meets (fun s => s.Knows (v.attachmentKey a "") id ∧ Keyed v m₁ s)
        (v.learn (.transitGateway a.gateway) a.gatewayScope)
        (fun _ s => s.Knows (v.attachmentKey a "") id ∧ Keyed v m₁ s) fun _ => True :=
      ((Vantage.meets_learn Run.indifferent_true).and_stable
        (Run.stable_and (Run.stable_knows _ id) (stable_keyed m₁))).weaken
          (fun _ hs => ⟨trivial, hs⟩) (fun _ _ hs => hs.2) fun _ hs => hs
    refine learned.bind _ fun gatewayId => meets_pure fun s hs => Keyed.addAttachment hs.2 ?_
    show s.Knows (v.attachmentKey a gatewayId) id
    rw [Vantage.attachmentKey_own own, ← Vantage.attachmentKey_own own]
    exact hs.1

/-- The id of every attachment in a map is remembered under the key of the attachment. -/
theorem build_keyed {s' : Run} (run : (build v t).run s = .ok m s') : Keyed v m s' := by
  have built : Meets (fun _ => True) (build v t) (fun m s => Keyed v m s) fun _ => True := by
    unfold build
    have start : Keying v { scope := v.caller }
        ((ownGateways t v.caller).foldlM (resolveGateway v) { scope := v.caller }) :=
      keying_foldlM (fun m g => resolveGateway_keying m g) _ _
    refine (start.weaken (fun s _ => ?_) (fun _ _ hs => hs) fun _ hs => hs).bind _ fun m => ?_
    · exact fun _ _ found => nomatch found
    refine (meets_ofExcept (fun _ _ _ hs => hs) fun _ _ => trivial).bind _ fun ds => ?_
    refine (keying_foldlM (fun m a => resolveAttachment_keying m a) _ m).bind _ fun m => ?_
    exact keying_foldlM (f := resolvePrefixList v)
      (fun _ _ => keying_learn fun _ => keying_pure rfl) _ m
  exact (built.ok trivial run).2

/-- The id of an attachment of another owner is what the provisioning interface has answered
for the attachment's name on the gateway that is recorded with it. -/
theorem build_attests {s' : Run} {ds : List Attachment}
    (slashless : ∀ name ∈ t.childNames, '/' ∉ name.toList)
    (run : (build v t).run {} = .ok m s')
    (described : t.attachments v.accounts v.caller = .ok ds) {key : String}
    {x : ResolvedAttachment} (found : m.attachments.get? key = some x)
    (listed : x.descriptor ∈ ds) (foreign : x.descriptor.owner ≠ v.caller) :
    Vantage.Attests s' x.descriptor.owner x.gatewayId x.descriptor.name x.id := by
  have kept : Keeps v.Attested (build v t) :=
    build_closed (closed_keeps v.Attested) (fun _ _ => Vantage.learn_attested)
      (fun ds described a ha gatewayId =>
        Vantage.resolveAttachment_attested (Topology.plain_of_described slashless described ha))
      fun _ _ => keeps_throw
  have known := build_keyed run key x found
  rw [Vantage.attachmentKey_foreign foreign] at known
  exact (kept.ok v.attested_start run).2 _ _ _ _ _ _
    (Topology.plain_of_described slashless described listed) foreign known

end UnitMap

end Interlink
