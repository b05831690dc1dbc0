import Interlink.Proofs.Paths
import Interlink.Proofs.Permission

/-!
# Where the values of a unit come from

A value that a unit has learned is one that somebody gave it: the unit has read
it in its own scope, or in the owner's store under the identity for reading
there, or has found it in the share of its owner. `Vantage.Obtained` lists these
ways, each with the exchange that gave the value, and `Vantage.Traced` is the
invariant that every remembered value has been obtained for what it is remembered
under.

A value is remembered under a path, which need not tell what it is the path of.
In the unit's own scope that does no harm, because what is read there depends on
the path alone. In the scope of another owner it does not depend on the path
alone, and so what is learned from there has to be `Plain`; while a map is built
that is asked of gateways and their route tables only.

A backend is `Steady` in a run if its answers are those of one function. Then
what has been obtained is what this function publishes or shares
(`Obtained.published_or_shared`).
-/

namespace Interlink

/-- The value that an answer gives. -/
def Answer.value? : Answer → Option String
  | .value text => some text
  | _ => none

theorem Answer.value?_ofOption (value? : Option String) : (ofOption value?).value? = value? := by
  cases value? <;> rfl

/-- A backend whose answers do not change while a run asks it: they are those of
one function. -/
def Backend.Steady (backend : Backend) (answer : Query → Answer) (s : Run) : Prop :=
  ∀ past e, past ++ [e] <+: s.exchanges → backend past e.query = answer e.query

theorem Backend.steady_fixed (answer : Query → Answer) (s : Run) :
    (Backend.fixed answer).Steady answer s :=
  fun _ _ _ => rfl

namespace Vantage

variable {v : Vantage} {s : Run} {es es' : List Exchange} {p : Published} {owner : Scope}
  {value : String}

/-! ## Ways to obtain a value -/

/-- How a unit has obtained what an owner published. -/
inductive Obtained (v : Vantage) (es : List Exchange) (p : Published) (owner : Scope)
    (value : String) : Prop
  /-- It was read in the unit's own scope. -/
  | own (mine : owner = v.caller)
      (read : ⟨.localValue owner (p.path v.pathPrefix), .value value⟩ ∈ es)
  /-- It was read in the owner's scope. -/
  | remote {i : Identity} (other : owner ≠ v.caller)
      (identity : v.Canonical .parameterShare owner i)
      (read : ⟨.remoteValue i (p.path v.pathPrefix), .value value⟩ ∈ es)
  /-- It was found in the owner's share. -/
  | shared {id : String} (shares : v.looksInShare p.kind owner = true)
      (member : v.accounts.accountId? owner.account = some id)
      (found : ⟨.share p.kind p.name id owner.region, .value value⟩ ∈ es)

theorem Obtained.mono (h : v.Obtained es p owner value) (more : es ⊆ es') :
    v.Obtained es' p owner value := by
  cases h with
  | own mine read => exact .own mine (more read)
  | remote other identity read => exact .remote other identity (more read)
  | shared shares member found => exact .shared shares member (more found)

/-- Nobody's own share is looked at. -/
theorem other_of_looksInShare {kind : ResourceKind} (h : v.looksInShare kind owner = true) :
    owner ≠ v.caller :=
  fun same => (looksInShare_iff.mp h).1 (congrArg Scope.account same)

/-- What was read in the unit's own scope was read for everything that has the
path. -/
theorem Obtained.of_path {q : Published} (h : v.Obtained es q v.caller value)
    (same : q.path v.pathPrefix = p.path v.pathPrefix) : v.Obtained es p v.caller value := by
  cases h with
  | own mine read => exact .own mine (same ▸ read)
  | remote other identity read => exact absurd rfl other
  | shared shares member found => exact absurd rfl (other_of_looksInShare shares)

/-! ## Traced runs -/

/-- What a value is remembered under, and how it has been obtained. Of the
attachments of other owners nothing is said. -/
inductive Accounted (v : Vantage) (es : List Exchange) : RecallKey → String → Prop
  | published {p : Published} {owner : Scope} {value : String}
      (plain : owner ≠ v.caller → p.Plain) (obtained : v.Obtained es p owner value) :
      Accounted v es ⟨p.path v.pathPrefix, owner⟩ value
  | foreign {kind : AttachmentKind} {child name gatewayId : String} {owner : Scope}
      {value : String} (other : owner ≠ v.caller) :
      Accounted v es
        (attachmentRecallKey ((Published.attachment kind child name).path v.pathPrefix) gatewayId
          owner) value

theorem Accounted.mono {key : RecallKey} (h : v.Accounted es key value) (more : es ⊆ es') :
    v.Accounted es' key value := by
  cases h with
  | published plain obtained => exact .published plain (obtained.mono more)
  | foreign other => exact .foreign other

/-- A run in which every answer is the backend's, every identity is the one for
its key, and every remembered value is accounted for. -/
structure Traced (v : Vantage) (s : Run) : Prop where
  honest : ∀ {past : List Exchange} {e : Exchange},
    past ++ [e] <+: s.exchanges → e.answer = v.backend past e.query
  identities : v.Vetted s
  known : ∀ {key : RecallKey} {value : String}, s.Knows key value →
    v.Accounted s.exchanges key value

theorem traced_start (v : Vantage) : v.Traced {} where
  honest h := absurd h Run.not_asked_start
  identities := vetted_start v
  known h := nomatch h

theorem Traced.note (h : v.Traced s) (key : RecallKey) : v.Traced (s.note key) where
  honest hp := h.honest (by simpa using hp)
  identities := h.identities
  known hk := by simpa using h.known (Run.knows_note.mp hk)

theorem Traced.hit (h : v.Traced s) : v.Traced s.hit :=
  ⟨h.honest, h.identities, h.known⟩

theorem Traced.exchange (h : v.Traced s) {q : Query} {a : Answer}
    (answered : v.backend s.exchanges q = a) : v.Traced (s.exchange q a) where
  honest hp := by
    rcases Run.asked_exchange.mp hp with ⟨rfl, rfl⟩ | earlier
    · exact answered.symm
    · exact h.honest earlier
  identities := h.identities
  known hk := by
    rw [Run.exchanges_exchange]
    exact (h.known (Run.knows_exchange.mp hk)).mono (List.subset_append_left ..)

theorem Traced.remember (h : v.Traced s) {key : RecallKey}
    (accounted : v.Accounted s.exchanges key value) : v.Traced (s.remember key value) where
  honest := h.honest
  identities := h.identities
  known hk := by
    rcases Run.knows_remember.mp hk with known | ⟨-, rfl, rfl⟩
    · exact h.known known
    · exact accounted

theorem Traced.enlist (h : v.Traced s) {key : HelperKey} {i : Identity}
    (canonical : v.Canonical key.purpose ⟨key.account, key.region⟩ i) :
    v.Traced (s.enlist key i) where
  honest := h.honest
  identities := h.identities.enlist canonical
  known := h.known

/-- A remembered value has been obtained for what it is looked up for. -/
theorem Traced.obtained (h : v.Traced s)
    (known : s.Knows ⟨p.path v.pathPrefix, owner⟩ value)
    (plain : owner ≠ v.caller → p.Plain ∧ p.ofGateway = true) :
    v.Obtained s.exchanges p owner value := by
  have accounted := h.known known
  generalize same : (⟨p.path v.pathPrefix, owner⟩ : RecallKey) = key at accounted
  cases accounted with
  | @published q _ _ qPlain obtained =>
    obtain ⟨path, rfl⟩ := RecallKey.mk.inj same
    by_cases mine : owner = v.caller
    · subst mine
      exact obtained.of_path path.symm
    · rw [Published.path_injective (plain mine).1 (qPlain mine) path]
      exact obtained
  | @foreign kind child name gatewayId _ _ other =>
    obtain ⟨path, rfl⟩ := RecallKey.mk.inj same
    rw [String.append_assoc] at path
    exact (Published.path_ne_attachment (plain other).2 v.pathPrefix kind child name
      ("@" ++ gatewayId) path).elim

/-! ## Asking -/

open Lookup

theorem askFor_traced {path : String} {owner : Scope} {q : Query} :
    Meets v.Traced (v.askFor path owner q)
      (fun found s => v.Traced s ∧ ∀ value, found = some value → ⟨q, .value value⟩ ∈ s.exchanges)
      v.Traced := by
  refine meets_answered (fun s x hs answered => ⟨hs.exchange answered, ?_⟩)
    (fun s hs answered => ⟨hs.exchange answered, fun _ h => nomatch h⟩)
    fun s e hs answered => hs.exchange answered
  rintro _ ⟨rfl⟩
  simp

theorem identity_traced {purpose : RolePurpose} {role : Option String}
    (canonical : role = v.roleFor purpose owner) :
    Meets v.Traced (v.identity purpose owner role)
      (fun i s => v.Traced s ∧ v.Canonical purpose owner i) v.Traced :=
  identity_vetted (fun _ hs => hs.identities) (fun _ _ _ hs new => hs.enlist new) canonical

/-- What a way to fetch a value promises: the value has been obtained. -/
def Finds (v : Vantage) (p : Published) (owner : Scope) (x : Lookup (Option String)) : Prop :=
  Meets v.Traced x
    (fun found s => v.Traced s ∧
      ∀ value, found = some value → v.Obtained s.exchanges p owner value) v.Traced

theorem readRemote_finds {role : Option String} (other : owner ≠ v.caller)
    (canonical : role = v.roleFor .parameterShare owner) :
    v.Finds p owner (v.readRemote (p.reference v.pathPrefix) owner role) := by
  refine ((identity_traced canonical).mono fun i s hs => hs.symm).bind _ fun i =>
    Meets.assuming fun made => ?_
  exact askFor_traced.mono fun found s hs =>
    ⟨hs.1, fun value h => .remote other made (hs.2 value h)⟩

theorem readShared_finds (shares : v.looksInShare p.kind owner = true) :
    v.Finds p owner (v.readShared (p.reference v.pathPrefix) owner) := by
  obtain ⟨account, -, -⟩ := looksInShare_iff.mp shares
  refine Meets.bind (fun id s => v.accounts.accountId? owner.account = some id ∧ v.Traced s)
    (meets_ofExcept (fun id found s hs => ⟨requireId_ok found, hs⟩) fun _ hs => hs) fun id =>
      Meets.assuming fun member => ?_
  refine Meets.bind _ askFor_traced fun found => ?_
  cases found with
  | some value =>
    refine meets_pure fun s hs => ⟨hs.1, ?_⟩
    rintro _ ⟨rfl⟩
    exact .shared shares member (hs.2 _ rfl)
  | none =>
    exact (readRemote_finds (other_of_looksInShare shares) (roleFor_other account _).symm).weaken
      (fun _ hs => hs.1) (fun _ _ hs => hs) fun _ hs => hs

/-- However a value is fetched, it has been obtained. -/
theorem fetch_finds (v : Vantage) (p : Published) (owner : Scope) :
    v.Finds p owner (v.fetch (p.reference v.pathPrefix) owner) := by
  rw [fetch_eq]
  by_cases mine : owner = v.caller
  · rw [if_pos mine]
    exact askFor_traced.mono fun found s hs => ⟨hs.1, fun value h => .own mine (hs.2 value h)⟩
  · rw [if_neg mine]
    split
    · next shares => exact readShared_finds shares
    · exact readRemote_finds mine rfl

/-! ## Learning -/

/-- What is learned has been obtained, now or when it was learned first. -/
theorem learn_traced (plain : owner ≠ v.caller → p.Plain ∧ p.ofGateway = true) :
    Meets v.Traced (v.learn p owner)
      (fun value s => v.Traced s ∧ v.Obtained s.exchanges p owner value) v.Traced := by
  have remembered : Meets v.Traced (v.learn p owner)
      (fun value s => v.Traced s ∧ s.Knows ⟨p.path v.pathPrefix, owner⟩ value) v.Traced := by
    refine meets_recalled (fun _ hs => hs.note _) (fun _ hs => hs.hit) (v.fetch_finds p owner)
      (fun s value hs => ?_) fun _ hs => hs.1
    exact hs.1.remember (.published (fun other => (plain other).1) (hs.2 value rfl))
  exact remembered.mono fun value s hs => ⟨hs.1, hs.1.obtained hs.2 plain⟩

theorem learn_own_traced (v : Vantage) (p : Published) :
    Meets v.Traced (v.learn p v.caller)
      (fun value s => v.Traced s ∧ v.Obtained s.exchanges p v.caller value) v.Traced :=
  learn_traced fun other => absurd rfl other

/-- The id of an attachment of the unit has been obtained. That of another one is
what the provisioning interface says. -/
theorem resolveAttachment_traced (v : Vantage) (kind : AttachmentKind)
    (child name gatewayId : String) (owner : Scope) :
    Meets v.Traced (v.resolveAttachment kind child name gatewayId owner)
      (fun id s => v.Traced s ∧ (owner = v.caller →
        v.Obtained s.exchanges (.attachment kind child name) owner id)) v.Traced := by
  unfold resolveAttachment
  dsimp only
  split
  · next mine =>
    rw [mine]
    exact (v.learn_own_traced _).mono fun id s hs => ⟨hs.1, fun _ => hs.2⟩
  · next other =>
    have asked : Meets v.Traced
        (do
          let identity ← v.identity .describeAttachments owner
            (some (RolePurpose.describeAttachments.roleName v.pathPrefix owner.region))
          v.askFor ((Published.attachment kind child name).path v.pathPrefix) owner
            (.attachment identity gatewayId name))
        (fun _ s => v.Traced s) v.Traced :=
      ((identity_traced rfl).mono fun _ _ hs => hs.1).bind _ fun _ =>
        askFor_traced.mono fun _ _ hs => hs.1
    refine (meets_recalled (fun _ hs => hs.note _) (fun _ hs => hs.hit) asked
      (fun s value hs => ?_) fun _ hs => hs).mono
        fun id s hs => ⟨hs.1, fun mine => absurd mine other⟩
    exact Traced.remember hs (.foreign other)

/-! ## Steady backends -/

/-- What an owner publishes at a path, as the unit reads it: in its own scope, or
under the identity for reading in the owner's scope. -/
def publishedIn (v : Vantage) (answer : Query → Answer) (owner : Scope) (path : String) :
    Option String :=
  if owner = v.caller then (answer (.localValue owner path)).value?
  else
    (v.accounts.accountId? owner.account).bind fun id =>
      (answer (.remoteValue ⟨owner.account, id, owner.region, v.roleFor .parameterShare owner⟩
        path)).value?

/-- The id that the share of an owner gives for a resource. -/
def sharedBy (v : Vantage) (answer : Query → Answer) (kind : ResourceKind) (name : String)
    (owner : Scope) : Option String :=
  (v.accounts.accountId? owner.account).bind fun id =>
    (answer (.share kind name id owner.region)).value?

variable {answer : Query → Answer}

section Fixed

variable {J : Run → Prop} {path : String} {q : Query}
  (exchanged : ∀ s a, J s → J (s.exchange q a)) (fixed : v.backend = .fixed answer)
include exchanged fixed

/-- If answers are fixed, a question comes to what is answered, or fails if the answer is a
failure. -/
theorem askFor_answer :
    Meets J (v.askFor path owner q) (fun found s => answer q = .ofOption found ∧ J s)
      fun s => (∃ e, answer q = .failed e) ∧ J s := by
  have answered (s : Run) : v.backend s.exchanges q = answer q := by
    rw [fixed]
    rfl
  apply meets_answered
  · intro s x hs h
    exact ⟨(answered s).symm.trans h, exchanged s _ hs⟩
  · intro s hs h
    exact ⟨(answered s).symm.trans h, exchanged s _ hs⟩
  · intro s e hs h
    exact ⟨⟨e, (answered s).symm.trans h⟩, exchanged s _ hs⟩

/-- A question comes to the value of its answer. -/
theorem askFor_value :
    Meets J (v.askFor path owner q) (fun found s => (answer q).value? = found ∧ J s)
      fun s => (answer q).value? = none ∧ J s := by
  refine (askFor_answer exchanged fixed).weaken (fun _ hs => hs) ?_ ?_
  · rintro found s ⟨answered, hs⟩
    exact ⟨by rw [answered, Answer.value?_ofOption], hs⟩
  · rintro s ⟨⟨e, answered⟩, hs⟩
    exact ⟨by rw [answered]; rfl, hs⟩

end Fixed

/-- What a steady backend has answered it answers always. -/
theorem Traced.answered (h : v.Traced s) (steady : v.backend.Steady answer s) {q : Query}
    (read : ⟨q, .value value⟩ ∈ s.exchanges) : (answer q).value? = some value := by
  obtain ⟨past, asked⟩ := Run.asked_of_mem read
  rw [← steady past _ asked, ← h.honest asked]
  rfl

/-- From a steady backend the unit has obtained what it publishes or what it
shares. -/
theorem Obtained.published_or_shared (h : v.Obtained s.exchanges p owner value)
    (traced : v.Traced s) (steady : v.backend.Steady answer s) :
    v.publishedIn answer owner (p.path v.pathPrefix) = some value ∨
      v.looksInShare p.kind owner = true ∧ v.sharedBy answer p.kind p.name owner = some value := by
  cases h with
  | own mine read =>
    left
    rw [publishedIn, if_pos mine]
    exact traced.answered steady read
  | remote other identity read =>
    left
    have made : v.Canonical .parameterShare owner
        ⟨owner.account, _, owner.region, v.roleFor .parameterShare owner⟩ :=
      ⟨rfl, identity.accountId, rfl⟩
    rw [publishedIn, if_neg other, identity.accountId, Option.bind_some,
      ← traced.answered steady read, identity.unique made]
  | shared shares member found =>
    right
    rw [sharedBy, member, Option.bind_some]
    exact ⟨shares, traced.answered steady found⟩

/-- What is never shared is what its owner publishes. -/
theorem Obtained.publishedIn (h : v.Obtained s.exchanges p owner value) (traced : v.Traced s)
    (steady : v.backend.Steady answer s) (alone : p.kind.shareable = false) :
    v.publishedIn answer owner (p.path v.pathPrefix) = some value := by
  rcases h.published_or_shared traced steady with published | ⟨shares, -⟩
  · exact published
  · have shareable := (looksInShare_iff.mp shares).2.2
    exact nomatch alone.symm.trans shareable

end Vantage

end Interlink
