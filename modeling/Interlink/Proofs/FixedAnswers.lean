import Interlink.Proofs.Sources

/-!
# What fixed answers tell

A backend with fixed answers gives a unit one value for whatever it asks, or none: the
answers decide it, and neither the questions before nor the values that are remembered
have a part in it. `Vantage.knowledge` reads these values off the answers. A request
comes to the value that it is about, and fails if there is none (`learn_told`,
`resolveForeign_told`).

Two things could come between the answers and what is learned. An identity is kept
under its purpose and owner, and it could be another one than would be made now; but
every identity that is kept has been made in the same way (`Vetted`). And a value is
remembered under a path, which could be the path of something else. In the unit's own
scope that makes no difference, because what is read there depends on the path alone.
Of other owners only gateways and attachments are looked up, under paths that tell
what they are the paths of if the names hold no slashes.
-/

namespace Interlink

/-- What a unit is told of everything that it may ask for. -/
structure Knowledge where
  /-- The value that an owner publishes or shares. -/
  value : Published → Scope → Option String
  /-- The id of an attachment of another owner, by the id of its gateway and by its name. -/
  attachment : Scope → String → String → Option String

namespace Vantage

variable {v : Vantage} {answer : Query → Answer} {p : Published} {owner : Scope} {s : Run}
  {value : String}

/-! ## Values -/

/-- What a unit is told of a published value. A share that cannot be looked at leaves it unknown,
and one that does not have it leaves it to the owner's store. -/
def told (v : Vantage) (answer : Query → Answer) (p : Published) (owner : Scope) :
    Option String :=
  if v.looksInShare p.kind owner then
    (v.accounts.accountId? owner.account).bind fun id =>
      match answer (.share p.kind p.name id owner.region) with
      | .value value => some value
      | .missing => v.publishedIn answer owner (p.path v.pathPrefix)
      | .failed _ => none
  else v.publishedIn answer owner (p.path v.pathPrefix)

/-- What the provisioning interface tells of an attachment in its owner's scope. -/
def toldOfAttachment (v : Vantage) (answer : Query → Answer) (owner : Scope)
    (gatewayId name : String) : Option String :=
  (v.accounts.accountId? owner.account).bind fun id =>
    (answer (.attachment ⟨owner.account, id, owner.region, v.roleFor .describeAttachments owner⟩
      gatewayId name)).value?

/-- What a unit is told if the answers are fixed. -/
def knowledge (v : Vantage) (answer : Query → Answer) : Knowledge :=
  ⟨v.told answer, v.toldOfAttachment answer⟩

/-- What a unit is told depends on where it stands, and of the accounts on their ids. -/
theorem knowledge_congr {w : Vantage} (caller : v.caller = w.caller)
    (homeRegion : v.homeRegion = w.homeRegion) (pathPrefix : v.pathPrefix = w.pathPrefix)
    (accounts : ∀ name, v.accounts.accountId? name = w.accounts.accountId? name) :
    v.knowledge answer = w.knowledge answer := by
  have shares (kind : ResourceKind) (owner : Scope) :
      v.looksInShare kind owner = w.looksInShare kind owner := by
    unfold looksInShare
    rw [caller]
  have role (purpose : RolePurpose) (owner : Scope) :
      v.roleFor purpose owner = w.roleFor purpose owner := by
    unfold roleFor
    rw [caller, homeRegion, pathPrefix]
  have published (owner : Scope) (path : String) :
      v.publishedIn answer owner path = w.publishedIn answer owner path := by
    unfold publishedIn
    rw [caller, accounts, role]
  unfold knowledge
  congr 1
  · funext p owner
    unfold told
    rw [shares, accounts, published, pathPrefix]
  · funext owner gatewayId name
    unfold toldOfAttachment
    rw [accounts, role]

/-- What is not looked for in a share is told by its owner's store. -/
theorem told_published (alone : ¬v.looksInShare p.kind owner = true) :
    v.told answer p owner = v.publishedIn answer owner (p.path v.pathPrefix) := if_neg alone

/-- In its own scope a unit is told what it reads there. -/
theorem told_own (v : Vantage) (answer : Query → Answer) (p : Published) :
    v.told answer p v.caller = v.publishedIn answer v.caller (p.path v.pathPrefix) :=
  told_published fun shares => other_of_looksInShare shares rfl

theorem publishedIn_of_canonical {i : Identity} {path : String} (other : owner ≠ v.caller)
    (canonical : v.Canonical .parameterShare owner i) :
    v.publishedIn answer owner path = (answer (.remoteValue i path)).value? := by
  have made : v.Canonical .parameterShare owner
      ⟨owner.account, _, owner.region, v.roleFor .parameterShare owner⟩ :=
    ⟨rfl, canonical.accountId, rfl⟩
  rw [publishedIn, if_neg other, canonical.accountId, Option.bind_some, made.unique canonical]

theorem toldOfAttachment_of_canonical {i : Identity} {gatewayId name : String}
    (canonical : v.Canonical .describeAttachments owner i) :
    v.toldOfAttachment answer owner gatewayId name =
      (answer (.attachment i gatewayId name)).value? := by
  have made : v.Canonical .describeAttachments owner
      ⟨owner.account, _, owner.region, v.roleFor .describeAttachments owner⟩ :=
    ⟨rfl, canonical.accountId, rfl⟩
  rw [toldOfAttachment, canonical.accountId, Option.bind_some, made.unique canonical]

/-! ## Informed runs -/

/-- What a value is remembered under, if it is what the unit is told of it. -/
inductive Informative (v : Vantage) (answer : Query → Answer) : RecallKey → String → Prop
  | published {p : Published} {owner : Scope} {value : String}
      (plain : owner ≠ v.caller → p.Plain ∧ p.ofGateway = true)
      (told : v.told answer p owner = some value) :
      Informative v answer ⟨p.path v.pathPrefix, owner⟩ value
  | foreign {kind : AttachmentKind} {child name gatewayId : String} {owner : Scope}
      {value : String} (other : owner ≠ v.caller)
      (plain : (Published.attachment kind child name).Plain)
      (told : v.toldOfAttachment answer owner gatewayId name = some value) :
      Informative v answer
        (attachmentRecallKey ((Published.attachment kind child name).path v.pathPrefix) gatewayId
          owner) value

/-- A run in which every identity is the one for its key and every remembered value is what the
unit is told. -/
structure Informed (v : Vantage) (answer : Query → Answer) (s : Run) : Prop where
  identities : v.Vetted s
  known : ∀ {key : RecallKey} {value : String}, s.Knows key value → v.Informative answer key value

theorem informed_start (v : Vantage) (answer : Query → Answer) : v.Informed answer {} where
  identities := v.vetted_start
  known h := nomatch h

theorem Informed.note (h : v.Informed answer s) (key : RecallKey) :
    v.Informed answer (s.note key) :=
  ⟨h.identities, h.known⟩

theorem Informed.hit (h : v.Informed answer s) : v.Informed answer s.hit :=
  ⟨h.identities, h.known⟩

theorem Informed.exchange (h : v.Informed answer s) (q : Query) (a : Answer) :
    v.Informed answer (s.exchange q a) :=
  ⟨h.identities, h.known⟩

theorem Informed.enlist (h : v.Informed answer s) {key : HelperKey} {i : Identity}
    (canonical : v.Canonical key.purpose ⟨key.account, key.region⟩ i) :
    v.Informed answer (s.enlist key i) :=
  ⟨h.identities.enlist canonical, h.known⟩

theorem Informed.remember (h : v.Informed answer s) {key : RecallKey}
    (informative : v.Informative answer key value) : v.Informed answer (s.remember key value) where
  identities := h.identities
  known hk := by
    rcases Run.knows_remember.mp hk with known | ⟨-, rfl, rfl⟩
    · exact h.known known
    · exact informative

/-- What is remembered under the path of a value is what the unit is told of it. -/
theorem Informed.told (h : v.Informed answer s)
    (known : s.Knows ⟨p.path v.pathPrefix, owner⟩ value)
    (plain : owner ≠ v.caller → p.Plain ∧ p.ofGateway = true) :
    v.told answer p owner = some value := by
  have informative := h.known known
  generalize same : (⟨p.path v.pathPrefix, owner⟩ : RecallKey) = key at informative
  cases informative with
  | @published q _ _ qPlain told =>
    obtain ⟨path, rfl⟩ := RecallKey.mk.inj same
    by_cases mine : owner = v.caller
    · subst mine
      rw [told_own] at told ⊢
      rw [path, told]
    · rw [Published.path_injective (plain mine).1 (qPlain mine).1 path, told]
  | @foreign kind child name gatewayId _ _ other _ _ =>
    obtain ⟨path, rfl⟩ := RecallKey.mk.inj same
    rw [String.append_assoc] at path
    exact (Published.path_ne_attachment (plain other).2 v.pathPrefix kind child name
      ("@" ++ gatewayId) path).elim

/-- What is remembered of an attachment of another owner is what the unit is told of it. -/
theorem Informed.toldOfAttachment (h : v.Informed answer s) {kind : AttachmentKind}
    {child name gatewayId : String}
    (known : s.Knows (attachmentRecallKey
      ((Published.attachment kind child name).path v.pathPrefix) gatewayId owner) value)
    (other : owner ≠ v.caller) (plain : (Published.attachment kind child name).Plain) :
    v.toldOfAttachment answer owner gatewayId name = some value := by
  have informative := h.known known
  generalize same : attachmentRecallKey
    ((Published.attachment kind child name).path v.pathPrefix) gatewayId owner = key
    at informative
  cases informative with
  | @published q _ _ qPlain _ =>
    obtain ⟨path, rfl⟩ := RecallKey.mk.inj same
    rw [String.append_assoc] at path
    exact (Published.path_ne_attachment (qPlain other).2 v.pathPrefix kind child name
      ("@" ++ gatewayId) path.symm).elim
  | @foreign kind' child' name' gatewayId' _ _ _ plain' told =>
    obtain ⟨path, rfl⟩ := RecallKey.mk.inj same
    rw [String.append_assoc, String.append_assoc] at path
    obtain ⟨-, -, rfl, behind⟩ := Published.path_attachment_append_injective plain plain' path
    obtain rfl := (String.append_right_inj "@").mp behind
    exact told

/-! ## Asking -/

open Lookup

section Fixed

variable (fixed : v.backend = .fixed answer)
include fixed

theorem askFor_told {path : String} {q : Query} :
    Meets (v.Informed answer) (v.askFor path owner q)
      (fun found s => (answer q).value? = found ∧ v.Informed answer s)
      fun _ => (answer q).value? = none :=
  (askFor_value (fun _ _ hs => hs.exchange q _) fixed).weaken (fun _ hs => hs) (fun _ _ hs => hs)
    fun _ hs => hs.1

omit fixed in
/-- An identity that is asked for with its role is the one for its owner, if the owner is a
member. -/
theorem identity_told {purpose : RolePurpose} {role : Option String}
    (canonical : role = v.roleFor purpose owner) :
    Meets (v.Informed answer) (v.identity purpose owner role)
      (fun i s => v.Canonical purpose owner i ∧ v.Informed answer s)
      fun _ => v.accounts.accountId? owner.account = none := by
  apply meets_identity
  · intro s i _ hs _ kept
    exact ⟨hs.identities _ i kept, hs⟩
  · intro s id hs member _
    have new : v.Canonical purpose owner ⟨owner.account, id, owner.region, role⟩ :=
      ⟨rfl, member, canonical⟩
    exact ⟨new, hs.enlist new⟩
  · intro s hs unknown
    exact unknown

theorem readRemote_told {r : Reference} {role : Option String} (other : owner ≠ v.caller)
    (canonical : role = v.roleFor .parameterShare owner) :
    Meets (v.Informed answer) (v.readRemote r owner role)
      (fun found s => v.publishedIn answer owner r.path = found ∧ v.Informed answer s)
      fun _ => v.publishedIn answer owner r.path = none := by
  have unknown (_ : Run) (none : v.accounts.accountId? owner.account = none) :
      v.publishedIn answer owner r.path = .none := by
    rw [publishedIn, if_neg other, none]
    rfl
  refine ((identity_told canonical).weaken (fun _ hs => hs) (fun _ _ hs => hs) unknown).bind _
    fun i => Meets.assuming fun made => ?_
  rw [publishedIn_of_canonical other made]
  exact askFor_told fixed

/-- A value that the owner may share comes from the share, and from the owner's store only if the
share does not have it. -/
theorem readShared_told (shares : v.looksInShare p.kind owner = true) :
    Meets (v.Informed answer) (v.readShared (p.reference v.pathPrefix) owner)
      (fun found s => v.told answer p owner = found ∧ v.Informed answer s)
      fun _ => v.told answer p owner = none := by
  obtain ⟨account, -, -⟩ := looksInShare_iff.mp shares
  unfold told readShared requireId
  rw [if_pos shares]
  cases v.accounts.accountId? owner.account with
  | none => exact Meets.bind (fun _ _ => False) (meets_throw fun _ _ => rfl) fun _ =>
      ⟨fun h => h.elim, fun h => h.elim⟩
  | some id =>
    rw [Option.bind_some]
    show Meets _ (v.askFor _ owner (.share p.kind p.name id owner.region) >>= _) _ _
    refine Meets.bind _ ((askFor_answer (fun _ _ hs => hs.exchange _ _) fixed).weaken
      (fun _ hs => hs) (fun _ _ hs => hs) ?_) fun found => Meets.assuming fun answered => ?_
    · rintro s ⟨⟨e, failed⟩, -⟩
      rw [failed]
    · rw [answered]
      cases found with
      | some value => exact meets_pure fun s hs => ⟨rfl, hs⟩
      | none =>
        exact readRemote_told fixed (other_of_looksInShare shares) (roleFor_other account _).symm

/-- However a value is fetched, it is what the unit is told of it. -/
theorem fetch_told (p : Published) (owner : Scope) :
    Meets (v.Informed answer) (v.fetch (p.reference v.pathPrefix) owner)
      (fun found s => v.told answer p owner = found ∧ v.Informed answer s)
      fun _ => v.told answer p owner = none := by
  rw [fetch_eq]
  by_cases mine : owner = v.caller
  · rw [if_pos mine, mine, told_own, publishedIn, if_pos rfl]
    exact askFor_told fixed
  · rw [if_neg mine]
    split
    · next shares => exact readShared_told fixed shares
    · next alone =>
      rw [told_published alone]
      exact readRemote_told fixed mine rfl

/-! ## Learning -/

/-- What is learned is what the unit is told, now or when it was learned first. -/
theorem learn_told (plain : owner ≠ v.caller → p.Plain ∧ p.ofGateway = true) :
    Meets (v.Informed answer) (v.learn p owner)
      (fun value s => v.told answer p owner = some value ∧ v.Informed answer s)
      fun _ => v.told answer p owner = none := by
  have remembered : Meets (v.Informed answer) (v.learn p owner)
      (fun value s => v.Informed answer s ∧ s.Knows ⟨p.path v.pathPrefix, owner⟩ value)
      fun _ => v.told answer p owner = none := by
    refine meets_recalled (fun _ hs => hs.note _) (fun _ hs => hs.hit) (fetch_told fixed p owner)
      (fun s value hs => ?_) fun _ hs => hs.1
    exact hs.2.remember (.published plain hs.1)
  exact remembered.mono fun value s hs => ⟨hs.1.told hs.2 plain, hs.1⟩

theorem learn_own_told (p : Published) :
    Meets (v.Informed answer) (v.learn p v.caller)
      (fun value s => v.told answer p v.caller = some value ∧ v.Informed answer s)
      fun _ => v.told answer p v.caller = none :=
  learn_told fixed fun other => absurd rfl other

/-- The id of an attachment of another owner is what the provisioning interface tells of it. -/
theorem resolveForeign_told {kind : AttachmentKind} {child name gatewayId : String}
    (other : owner ≠ v.caller) (plain : (Published.attachment kind child name).Plain) :
    Meets (v.Informed answer) (v.resolveAttachment kind child name gatewayId owner)
      (fun id s => v.toldOfAttachment answer owner gatewayId name = some id ∧
        v.Informed answer s)
      fun _ => v.toldOfAttachment answer owner gatewayId name = none := by
  have asked : Meets (v.Informed answer)
      (do
        let identity ← v.identity .describeAttachments owner
          (some (RolePurpose.describeAttachments.roleName v.pathPrefix owner.region))
        v.askFor ((Published.attachment kind child name).path v.pathPrefix) owner
          (.attachment identity gatewayId name))
      (fun found s => v.toldOfAttachment answer owner gatewayId name = found ∧
        v.Informed answer s)
      fun _ => v.toldOfAttachment answer owner gatewayId name = none := by
    have unknown (_ : Run) (none : v.accounts.accountId? owner.account = none) :
        v.toldOfAttachment answer owner gatewayId name = .none := by
      rw [toldOfAttachment, none]
      rfl
    refine ((identity_told rfl).weaken (fun _ hs => hs) (fun _ _ hs => hs) unknown).bind _
      fun i => Meets.assuming fun made => ?_
    rw [toldOfAttachment_of_canonical made]
    exact askFor_told fixed
  unfold resolveAttachment
  rw [if_neg other]
  refine (meets_recalled (fun _ hs => hs.note _) (fun _ hs => hs.hit) asked
    (fun s value hs => hs.2.remember (.foreign other plain hs.1)) fun _ hs => hs.1).mono
      fun id s hs => ⟨hs.1.toldOfAttachment hs.2 other plain, hs.1⟩

/-- The id of an attachment of the unit is what the unit reads for it, on whatever gateway. -/
theorem resolveOwn_told {kind : AttachmentKind} {child name gatewayId : String} :
    Meets (v.Informed answer) (v.resolveAttachment kind child name gatewayId v.caller)
      (fun id s => v.told answer (.attachment kind child name) v.caller = some id ∧
        v.Informed answer s)
      fun _ => v.told answer (.attachment kind child name) v.caller = none := by
  unfold resolveAttachment
  rw [if_pos rfl]
  exact learn_own_told fixed _

end Fixed

end Vantage

end Interlink
