import Interlink.Proofs.Calls
import Mathlib.Data.List.Chain

/-!
# A unit stops at the first question that has no answer

The journal of a run keeps what was requested and what was asked, in order. Read
together they tell for which value every question was asked (`Run.inquiries`). In
the run of a unit, whatever the topology and the backend are, no value is asked
for twice, except that one which was looked for in a share in vain is read right
afterwards; and a question that fails, or a value that was read or asked for and
is not there, is the end of the run (`Vantage.Orderly`).

Between two requests a run is `Sound`: the last question had an answer, and every
value that was asked for is remembered. A request keeps it so, or ends the run
with the error that its last question calls for (`Vantage.Ended`). The walk over
the stages does the rest, and leaves no other way to end but a fault of the
topology.
-/

namespace Interlink

/-! ## Inquiries -/

/-- A question with its answer, and the value that it was asked for. -/
structure Inquiry where
  key : RecallKey
  exchange : Exchange
deriving DecidableEq, Repr, Inhabited

/-- What a journal comes to: the value that was requested last, and the inquiries
so far. -/
structure Ledger where
  current : Option RecallKey := none
  inquiries : List Inquiry := []
deriving DecidableEq, Repr, Inhabited

/-- The ledger with one more event. What is asked is asked for the value that was
requested last. -/
def Ledger.add (l : Ledger) : Event → Ledger
  | .requested key => { l with current := some key }
  | .exchanged e =>
    { l with inquiries := l.inquiries ++ (l.current.map fun key => ⟨key, e⟩).toList }

namespace Run

/-- The ledger of a run. -/
def ledger (s : Run) : Ledger := s.journal.foldl Ledger.add {}

/-- The inquiries of a run, in order. -/
def inquiries (s : Run) : List Inquiry := s.ledger.inquiries

variable (s : Run) {key : RecallKey} {q : Query} {a : Answer} {value : String}

@[simp] theorem current_note : (s.note key).ledger.current = some key := by
  simp [ledger, note, Ledger.add]

@[simp] theorem inquiries_note : (s.note key).inquiries = s.inquiries := by
  simp [inquiries, ledger, note, Ledger.add]

@[simp] theorem inquiries_hit : s.hit.inquiries = s.inquiries := rfl

@[simp] theorem current_exchange : (s.exchange q a).ledger.current = s.ledger.current := by
  simp [ledger, exchange, Ledger.add]

variable {s} in
theorem inquiries_exchange (current : s.ledger.current = some key) :
    (s.exchange q a).inquiries = s.inquiries ++ [⟨key, q, a⟩] := by
  simp only [ledger] at current
  simp [inquiries, ledger, exchange, Ledger.add, current]

end Run

/-- Whether a question looks into a share. -/
def Query.isShare : Query → Bool
  | .share .. => true
  | _ => false

/-- What a question reads: a path in a scope. -/
def Query.reads? : Query → Option RecallKey
  | .localValue scope path => some ⟨path, scope⟩
  | .remoteValue i path => some ⟨path, i.scope⟩
  | _ => none

namespace Inquiry

/-- Whether a share was looked into. -/
def isShare (i : Inquiry) : Bool := i.exchange.query.isShare

/-- Whether a share did not have the value. -/
def missesShare (i : Inquiry) : Bool := i.isShare && i.exchange.answer == .missing

/-- Whether there is no value to go on with: the question could not be answered,
or the value is not there. -/
def isFatal (i : Inquiry) : Bool :=
  match i.exchange.answer with
  | .value _ => false
  | .missing => !i.isShare
  | .failed _ => true

/-- What may follow an inquiry: nothing if it was fatal, and what a share did not
have is read where its owner published it. -/
structure Follows (i j : Inquiry) : Prop where
  calm : i.isFatal = false
  read : i.missesShare = true → j.key = i.key ∧
    ∃ identity, j.exchange.query = .remoteValue identity i.key.path ∧ identity.scope = i.key.owner

theorem Follows.of_value {i j : Inquiry} {x : String} (answered : i.exchange.answer = .value x) :
    Follows i j := by
  constructor
  · simp [isFatal, answered]
  · intro misses
    simp [missesShare, answered] at misses

end Inquiry

namespace Vantage

/-! ## Questions for a value -/

/-- A question for the value that is published at a path, and that is remembered under a
key. -/
inductive Seeks (v : Vantage) : RecallKey → Query → String → Prop
  /-- The unit reads it in its own scope. -/
  | own {p : Published} :
      Seeks v ⟨p.path v.pathPrefix, v.caller⟩ (.localValue v.caller (p.path v.pathPrefix))
        (p.path v.pathPrefix)
  /-- The unit reads it in its owner's scope. -/
  | remote {p : Published} {owner : Scope} {i : Identity} (other : owner ≠ v.caller)
      (identity : v.Canonical .parameterShare owner i) :
      Seeks v ⟨p.path v.pathPrefix, owner⟩ (.remoteValue i (p.path v.pathPrefix))
        (p.path v.pathPrefix)
  /-- The unit looks into its owner's share. -/
  | shared {p : Published} {owner : Scope} {id : String}
      (shares : v.looksInShare p.kind owner = true)
      (member : v.accounts.accountId? owner.account = some id) :
      Seeks v ⟨p.path v.pathPrefix, owner⟩ (.share p.kind p.name id owner.region)
        (p.path v.pathPrefix)
  /-- The unit asks for an attachment of another owner. -/
  | provided {kind : AttachmentKind} {child name gatewayId : String} {owner : Scope} {i : Identity}
      (other : owner ≠ v.caller) (identity : v.Canonical .describeAttachments owner i) :
      Seeks v (attachmentRecallKey ((Published.attachment kind child name).path v.pathPrefix)
          gatewayId owner) (.attachment i gatewayId name)
        ((Published.attachment kind child name).path v.pathPrefix)

variable {v : Vantage} {s : Run} {key : RecallKey} {q : Query} {path : String}

/-- The path that is asked for is that of the key. An attachment of another owner has the
id of its gateway there as well. -/
theorem Seeks.key_path (h : v.Seeks key q path) :
    key.path = path ∨ ∃ i gatewayId name, q = .attachment i gatewayId name ∧
      key.path = path ++ "@" ++ gatewayId := by
  cases h with
  | own => exact .inl rfl
  | remote => exact .inl rfl
  | shared => exact .inl rfl
  | provided => exact .inr ⟨_, _, _, rfl, rfl⟩

/-- Only of an attachment the key has more than the path. -/
theorem Seeks.key_path_of (h : v.Seeks key q path)
    (other : ∀ i gatewayId name, q ≠ .attachment i gatewayId name) : key.path = path := by
  rcases h.key_path with same | ⟨i, gatewayId, name, asked, -⟩
  · exact same
  · exact absurd asked (other _ _ _)

/-- A question tells the path that it is asked for. -/
theorem Seeks.path_unique {path' : String} (h : v.Seeks key q path) (h' : v.Seeks key q path') :
    path = path' := by
  cases q with
  | attachment i gatewayId name =>
    cases h with
    | provided =>
      generalize same : attachmentRecallKey _ gatewayId _ = key at h'
      cases h' with
      | provided =>
        simp only [attachmentRecallKey, RecallKey.mk.injEq, String.append_left_inj] at same
        exact same.1
  | localValue scope p =>
    exact (h.key_path_of fun _ _ _ => nofun).symm.trans (h'.key_path_of fun _ _ _ => nofun)
  | remoteValue i p =>
    exact (h.key_path_of fun _ _ _ => nofun).symm.trans (h'.key_path_of fun _ _ _ => nofun)
  | share kind name id region =>
    exact (h.key_path_of fun _ _ _ => nofun).symm.trans (h'.key_path_of fun _ _ _ => nofun)

/-- What is read is what is remembered. -/
theorem Seeks.reads (h : v.Seeks key q path) {k : RecallKey} (reads : q.reads? = some k) :
    k = key ∧ q.isShare = false := by
  cases h with
  | own =>
    cases reads
    exact ⟨rfl, rfl⟩
  | remote other identity =>
    cases reads
    exact ⟨by rw [identity.scope], rfl⟩
  | shared => exact nomatch reads
  | provided => exact nomatch reads

/-! ## Order -/

/-- The questions of a run so far are in order. -/
structure Orderly (v : Vantage) (s : Run) : Prop where
  complete : s.inquiries.map (·.exchange) = s.exchanges
  posed : ∀ i ∈ s.inquiries, ∃ path, v.Seeks i.key i.exchange.query path
  once : (s.inquiries.map fun i => (i.key, i.isShare)).Nodup
  chain : s.inquiries.IsChain Inquiry.Follows

theorem orderly_start (v : Vantage) : v.Orderly {} := by
  constructor <;> simp [Run.inquiries, Run.ledger, Run.exchanges]

/-- The order is a matter of the inquiries. -/
theorem Orderly.of_eq (h : v.Orderly s) {s' : Run} (inquiries : s'.inquiries = s.inquiries)
    (exchanges : s'.exchanges = s.exchanges) : v.Orderly s' := by
  obtain ⟨complete, posed, once, chain⟩ := h
  constructor <;> rw [inquiries]
  · rw [complete, exchanges]
  · exact posed
  · exact once
  · exact chain

/-- In the middle of a request: every other value that was asked for is known. -/
structure Asking (v : Vantage) (key : RecallKey) (s : Run) : Prop where
  vetted : v.Vetted s
  orderly : v.Orderly s
  current : s.ledger.current = some key
  others : ∀ i ∈ s.inquiries, i.key ≠ key → ∃ x, s.Knows i.key x

/-- A question may be asked now: at most a share has been looked into for the value, and the
question is a fit answer to what was learned last. -/
structure Ready (v : Vantage) (key : RecallKey) (q : Query) (s : Run) : Prop
    extends v.Asking key s where
  fresh : ∀ i ∈ s.inquiries, i.key = key → i.isShare = true ∧ q.isShare = false
  follows : ∀ i ∈ s.inquiries.getLast?, ∀ a, i.Follows ⟨key, q, a⟩

/-- The last question had an answer. -/
def Answered (s : Run) : Prop :=
  ∀ i ∈ s.inquiries.getLast?, ∃ x, i.exchange.answer = .value x

/-- Asking keeps the questions in order. -/
theorem Ready.asked (h : v.Ready key q s) (seeks : v.Seeks key q path) (a : Answer) :
    v.Asking key (s.exchange q a) where
  vetted := h.vetted
  orderly := by
    obtain ⟨complete, posed, once, chain⟩ := h.orderly
    constructor <;> rw [Run.inquiries_exchange h.current]
    · rw [List.map_append, complete, Run.exchanges_exchange, List.map_singleton]
    · intro i hi
      rcases List.mem_append.mp hi with earlier | last
      · exact posed i earlier
      · rw [List.mem_singleton.mp last]
        exact ⟨path, seeks⟩
    · rw [List.map_append, List.map_singleton, List.nodup_append]
      refine ⟨once, List.nodup_singleton _, ?_⟩
      intro x hx y hy same
      obtain ⟨i, hi, rfl⟩ := List.mem_map.mp hx
      obtain ⟨key, share⟩ := Prod.mk.inj (same.trans (List.mem_singleton.mp hy))
      obtain ⟨looked, reads⟩ := h.fresh i hi key
      exact nomatch (looked.symm.trans share).trans reads
    · rw [List.isChain_append]
      refine ⟨chain, List.isChain_singleton _, ?_⟩
      intro i hi j hj
      cases hj
      exact h.follows i hi a
  current := by rw [Run.current_exchange, h.current]
  others := by
    rw [Run.inquiries_exchange h.current]
    intro i hi other
    rcases List.mem_append.mp hi with earlier | last
    · exact h.others i earlier other
    · rw [List.mem_singleton.mp last] at other
      exact absurd rfl other

/-! ## Between requests and during one -/

/-- Between two requests: the last question had an answer, and every value that was asked
for is remembered. -/
structure Sound (v : Vantage) (s : Run) : Prop where
  vetted : v.Vetted s
  orderly : v.Orderly s
  answered : Answered s
  known : ∀ i ∈ s.inquiries, ∃ x, s.Knows i.key x

/-- How a run ends without a plan. -/
inductive Ended (v : Vantage) : PlanError → Run → Prop
  /-- The last question could not be answered. -/
  | failed {s : Run} {i : Inquiry} {path : String} {source : LookupError} (orderly : v.Orderly s)
      (last : s.inquiries.getLast? = some i) (seeks : v.Seeks i.key i.exchange.query path)
      (answer : i.exchange.answer = .failed source) :
      Ended v (.lookupFailed path i.key.owner source) s
  /-- What was read or asked for last is not there. -/
  | missing {s : Run} {i : Inquiry} {path : String} (orderly : v.Orderly s)
      (last : s.inquiries.getLast? = some i) (seeks : v.Seeks i.key i.exchange.query path)
      (answer : i.exchange.answer = .missing) (read : i.isShare = false) :
      Ended v (.notFound path i.key.owner) s
  /-- The topology has a fault, and every question had an answer. -/
  | fault {s : Run} {e : PlanError} (sound : v.Sound s) (fault : e.OfTopology) : Ended v e s

theorem sound_start (v : Vantage) : v.Sound {} where
  vetted := v.vetted_start
  orderly := v.orderly_start
  answered := by simp [Answered, Run.inquiries, Run.ledger]
  known := by simp [Run.inquiries, Run.ledger]

/-- What is neither asked nor remembered nor an identity does not matter. -/
theorem Sound.of_eq (h : v.Sound s) {s' : Run} (inquiries : s'.inquiries = s.inquiries)
    (exchanges : s'.exchanges = s.exchanges) (helpers : s'.helpers = s.helpers)
    (knows : ∀ k x, s.Knows k x → s'.Knows k x) : v.Sound s' where
  vetted := by
    intro k i found
    exact h.vetted k i (helpers ▸ found)
  orderly := h.orderly.of_eq inquiries exchanges
  answered := by
    unfold Answered
    rw [inquiries]
    exact h.answered
  known := by
    rw [inquiries]
    exact fun i hi => (h.known i hi).imp fun x => knows i.key x

/-- A value has been requested that is not known. -/
structure Pending (v : Vantage) (key : RecallKey) (s : Run) : Prop extends v.Sound s where
  current : s.ledger.current = some key
  unasked : ∀ i ∈ s.inquiries, i.key ≠ key

theorem Sound.pending (h : v.Sound s) (unknown : s.values.values.get? key = none) :
    v.Pending key (s.note key) where
  toSound := h.of_eq (by simp) (by simp) rfl fun _ _ => id
  current := s.current_note
  unasked := by
    rw [Run.inquiries_note]
    rintro i hi rfl
    obtain ⟨x, known⟩ := h.known i hi
    exact nomatch unknown.symm.trans known

/-- Any question may be the first one for a value. -/
theorem Pending.ready (h : v.Pending key s) (q : Query) : v.Ready key q s where
  vetted := h.vetted
  orderly := h.orderly
  current := h.current
  others i hi _ := h.known i hi
  fresh i hi same := absurd same (h.unasked i hi)
  follows i hi a := by
    obtain ⟨x, answer⟩ := h.answered i hi
    exact .of_value answer

/-- The value that was requested has been told. -/
structure Told (v : Vantage) (key : RecallKey) (s : Run) : Prop extends v.Asking key s where
  answered : Answered s

/-- Once it is remembered, the run is sound again. -/
theorem Told.remember (h : v.Told key s) (value : String) : v.Sound (s.remember key value) where
  vetted := h.vetted
  orderly := h.orderly.of_eq rfl rfl
  answered := h.answered
  known i hi := by
    by_cases same : i.key = key
    · rw [same]
      exact ⟨_, s.knows_remember_self key value⟩
    · obtain ⟨x, known⟩ := h.others i hi same
      exact ⟨x, Run.knows_remember.mpr (.inl known)⟩

/-- The value that was requested is not where it was last looked for. -/
structure Lacked (v : Vantage) (key : RecallKey) (q : Query) (s : Run) : Prop
    extends v.Asking key s where
  last : s.inquiries.getLast? = some ⟨key, q, .missing⟩
  shares : q.isShare = true → ∀ i ∈ s.inquiries, i.key = key → i.isShare = true

/-- What was read or asked for and is not there ends the run. -/
theorem Lacked.ended (h : v.Lacked key q s) (seeks : v.Seeks key q path)
    (read : q.isShare = false) : v.Ended (.notFound path key.owner) s :=
  .missing h.orderly h.last seeks rfl read

/-- What was looked for in a share may be read where its owner published it. -/
theorem Lacked.ready (h : v.Lacked key q s) (looked : q.isShare = true) {i : Identity}
    (scope : i.scope = key.owner) : v.Ready key (.remoteValue i key.path) s where
  toAsking := h.toAsking
  fresh j hj same := ⟨h.shares looked j hj same, rfl⟩
  follows j hj a := by
    rw [h.last] at hj
    cases hj
    constructor
    · simp [Inquiry.isFatal, Inquiry.isShare, looked]
    · exact fun _ => ⟨rfl, i, rfl, scope⟩

/-- A stage of a request at which an identity may be made: those that are kept are the ones
for their keys, and one more of them is nothing to the stage. -/
structure Enlisting (v : Vantage) (J : Run → Prop) : Prop where
  vetted : ∀ {s : Run}, J s → v.Vetted s
  enlist : ∀ {s : Run} {k : HelperKey} {i : Identity}, J s →
    v.Canonical k.purpose ⟨k.account, k.region⟩ i → J (s.enlist k i)

theorem enlisting_pending (v : Vantage) (key : RecallKey) : v.Enlisting (v.Pending key) where
  vetted h := h.vetted
  enlist h canonical :=
    { vetted := h.vetted.enlist canonical
      orderly := h.orderly.of_eq rfl rfl
      answered := h.answered
      known := h.known
      current := h.current
      unasked := h.unasked }

theorem enlisting_lacked (v : Vantage) (key : RecallKey) (q : Query) :
    v.Enlisting (v.Lacked key q) where
  vetted h := h.vetted
  enlist h canonical :=
    { vetted := h.vetted.enlist canonical
      orderly := h.orderly.of_eq rfl rfl
      current := h.current
      others := h.others
      last := h.last
      shares := h.shares }

/-- What a question comes to. -/
inductive Answers (v : Vantage) (key : RecallKey) (q : Query) : Option String → Run → Prop
  | told {x : String} {s : Run} (told : v.Told key s) : Answers v key q (some x) s
  | lacked {s : Run} (lacked : v.Lacked key q s) : Answers v key q none s

/-- What fetching a value comes to. -/
inductive Fetched (v : Vantage) (key : RecallKey) (path : String) : Option String → Run → Prop
  | told {x : String} {s : Run} (told : v.Told key s) : Fetched v key path (some x) s
  | ended {s : Run} (ended : v.Ended (.notFound path key.owner) s) : Fetched v key path none s

theorem Answers.fetched {found : Option String} (h : v.Answers key q found s)
    (seeks : v.Seeks key q path) (read : q.isShare = false) : v.Fetched key path found s := by
  cases h with
  | told told => exact .told told
  | lacked lacked => exact .ended (lacked.ended seeks read)

end Vantage

/-! ## Requests -/

namespace Lookup

/-- What holds of a lookup from every run with `pre`: if it succeeds, `post` of its value and
its run, and if it fails, `fail` of its error and its run. -/
structure Yields {α : Type} (pre : Run → Prop) (x : Lookup α) (post : α → Run → Prop)
    (fail : PlanError → Run → Prop) : Prop where
  ok : ∀ {s s' : Run} {a : α}, pre s → x.run s = .ok a s' → post a s'
  error : ∀ {s s' : Run} {e : PlanError}, pre s → x.run s = .error e s' → fail e s'

variable {α β : Type} {pre : Run → Prop} {fail : PlanError → Run → Prop}

theorem yields_pure {a : α} {post : α → Run → Prop} (h : ∀ s, pre s → post a s) :
    Yields pre (pure a) post fail where
  ok hs run := by
    obtain ⟨rfl, rfl⟩ := run_pure_ok.mp run
    exact h _ hs
  error _ run := nomatch run

theorem yields_throw {e : PlanError} {post : α → Run → Prop} (h : ∀ s, pre s → fail e s) :
    Yields pre (throw e : Lookup α) post fail where
  ok _ run := nomatch run
  error hs run := by
    cases run
    exact h _ hs

theorem yields_ofExcept {r : Except PlanError α} {post : α → Run → Prop}
    (hok : ∀ a, r = .ok a → ∀ s, pre s → post a s)
    (herror : ∀ e, r = .error e → ∀ s, pre s → fail e s) :
    Yields pre (ofExcept r) post fail := by
  cases r with
  | ok a => exact yields_pure (hok a rfl)
  | error e => exact yields_throw (herror e rfl)

theorem Yields.bind {x : Lookup α} {f : α → Lookup β} {post : β → Run → Prop}
    (mid : α → Run → Prop) (hx : Yields pre x mid fail)
    (hf : ∀ a, Yields (mid a) (f a) post fail) : Yields pre (x >>= f) post fail where
  ok hs run := by
    obtain ⟨a, s', first, second⟩ := run_bind_ok.mp run
    exact (hf a).ok (hx.ok hs first) second
  error hs run := by
    rcases run_bind_error.mp run with first | ⟨a, s', first, second⟩
    · exact hx.error hs first
    · exact (hf a).error (hx.ok hs first) second

/-- What does not depend on the run may be assumed beforehand. -/
theorem Yields.assuming {P : Prop} {x : Lookup α} {post : α → Run → Prop}
    (h : P → Yields pre x post fail) : Yields (fun s => pre s ∧ P) x post fail where
  ok hs run := (h hs.2).ok hs.1 run
  error hs run := (h hs.2).error hs.1 run

theorem Yields.mono {x : Lookup α} {post post' : α → Run → Prop} (h : Yields pre x post fail)
    (weaker : ∀ a s, post a s → post' a s) : Yields pre x post' fail where
  ok hs run := weaker _ _ (h.ok hs run)
  error hs run := h.error hs run

theorem Yields.weaken {pre' : Run → Prop} {x : Lookup α} {post : α → Run → Prop}
    (h : Yields pre x post fail) (stronger : ∀ s, pre' s → pre s) :
    Yields pre' x post fail where
  ok hs run := h.ok (stronger _ hs) run
  error hs run := h.error (stronger _ hs) run

/-- Lookups that keep a property where they succeed, and end alike where they fail, do so one
after another. -/
theorem closed_yields (J : Run → Prop) (fail : PlanError → Run → Prop) :
    Closed fun _ x => Yields J x (fun _ s => J s) fail where
  pure _ := yields_pure fun _ hs => hs
  bind hx hf := by
    constructor
    · intro s s'' b hs run
      obtain ⟨a, s', first, second⟩ := run_bind_ok.mp run
      exact (hf a s s' first).ok (hx.ok hs first) second
    · intro s s'' e hs run
      rcases run_bind_error.mp run with first | ⟨a, s', first, second⟩
      · exact hx.error hs first
      · exact (hf a s s' first).error (hx.ok hs first) second

end Lookup

open Lookup

namespace Vantage

variable {v : Vantage} {key : RecallKey} {q : Query} {path : String}

/-- A question that may be asked is answered with a value, or not, or is the last one. -/
theorem askFor_yields {owner : Scope} {pre : Run → Prop} (seeks : v.Seeks key q path)
    (owned : key.owner = owner) (ready : ∀ s, pre s → v.Ready key q s) :
    Yields pre (v.askFor path owner q) (v.Answers key q) v.Ended := by
  have last {s : Run} (hs : v.Ready key q s) (a : Answer) :
      (s.exchange q a).inquiries.getLast? = some ⟨key, q, a⟩ := by
    rw [Run.inquiries_exchange hs.current, List.getLast?_concat]
  constructor
  · intro s s' found hs run
    have asked := (ready s hs).asked seeks
    rcases askFor_ok run with ⟨x, -, rfl, rfl⟩ | ⟨-, rfl, rfl⟩
    · refine .told ⟨asked _, fun i hi => ⟨x, ?_⟩⟩
      rw [last (ready s hs)] at hi
      cases hi
      rfl
    · refine .lacked ⟨asked _, last (ready s hs) _, fun looked i hi same => ?_⟩
      rw [Run.inquiries_exchange (ready s hs).current] at hi
      rcases List.mem_append.mp hi with earlier | now
      · exact ((ready s hs).fresh i earlier same).1
      · rw [List.mem_singleton.mp now]
        exact looked
  · intro s s' e hs run
    have asked := (ready s hs).asked seeks
    obtain ⟨source, -, rfl, rfl⟩ := askFor_error run
    subst owned
    exact .failed (asked _).orderly (last (ready s hs) _) seeks rfl

/-- An identity is the one for its key. It is refused only to an account that is not in the
organization. -/
theorem identity_yields {J : Run → Prop} (enlisting : v.Enlisting J)
    {fail : PlanError → Run → Prop} {purpose : RolePurpose} {owner : Scope} {role : Option String}
    (canonical : role = v.roleFor purpose owner)
    (unknown : v.accounts.accountId? owner.account = none → ∀ s, J s →
      fail (.misconfigured (.unknownAccount owner.account) v.caller) s) :
    Yields J (v.identity purpose owner role) (fun i s => J s ∧ v.Canonical purpose owner i)
      fail := by
  constructor
  · intro s s' i hs run
    have made :=
      identity_vetted (fun _ => enlisting.vetted) (fun _ _ _ => enlisting.enlist) canonical
    exact (made.ok hs run).2
  · intro s s' e hs run
    obtain ⟨none, rfl, rfl⟩ := identity_error run
    exact unknown none _ hs

theorem Pending.fault {s : Run} {e : PlanError} (h : v.Pending key s) (fault : e.OfTopology) :
    v.Ended e s :=
  .fault h.toSound fault

variable {p : Published} {owner : Scope}

/-- A value is read in its owner's store: right away, or when the share did not have it. -/
theorem readRemote_yields {J : Run → Prop} (enlisting : v.Enlisting J)
    (ready : ∀ s i, J s → i.scope = owner →
      v.Ready ⟨p.path v.pathPrefix, owner⟩ (.remoteValue i (p.path v.pathPrefix)) s)
    (other : owner ≠ v.caller)
    (unknown : v.accounts.accountId? owner.account = none → ∀ s, J s → v.Sound s) :
    Yields J (v.readRemote (p.reference v.pathPrefix) owner (v.roleFor .parameterShare owner))
      (v.Fetched ⟨p.path v.pathPrefix, owner⟩ (p.path v.pathPrefix)) v.Ended := by
  apply Yields.bind _ (identity_yields enlisting rfl ?_)
  · intro i
    apply Yields.assuming
    intro canonical
    have seeks : v.Seeks ⟨p.path v.pathPrefix, owner⟩ (.remoteValue i (p.path v.pathPrefix))
        (p.path v.pathPrefix) := .remote other canonical
    have asked := askFor_yields seeks rfl fun s hs => ready s i hs canonical.scope
    exact asked.mono fun _ _ hs => hs.fetched seeks rfl
  · intro none s hs
    exact .fault (unknown none s hs) .misconfigured

/-- A value is looked for in a share. An account whose share can be looked into is in the
organization, so an identity for it is not refused afterwards. -/
theorem readShared_yields (shares : v.looksInShare p.kind owner = true) (other : owner ≠ v.caller) :
    Yields (v.Pending ⟨p.path v.pathPrefix, owner⟩) (v.readShared (p.reference v.pathPrefix) owner)
      (v.Fetched ⟨p.path v.pathPrefix, owner⟩ (p.path v.pathPrefix)) v.Ended := by
  apply Yields.bind fun id s => v.Pending _ s ∧ v.accounts.accountId? owner.account = some id
  · apply yields_ofExcept
    · intro id found s hs
      exact ⟨hs, requireId_ok found⟩
    · intro e refused s hs
      exact hs.fault (Plan.requireId_error refused)
  intro id
  apply Yields.assuming
  intro member
  have seeks : v.Seeks ⟨p.path v.pathPrefix, owner⟩ (.share p.kind p.name id owner.region)
      (p.path v.pathPrefix) := .shared shares member
  apply Yields.bind _ (askFor_yields seeks rfl fun s hs => hs.ready _)
  intro found
  cases found with
  | some value =>
    apply yields_pure
    intro s hs
    cases hs with
    | told told => exact .told told
  | none =>
    rw [← roleFor_other (looksInShare_iff.mp shares).1]
    have read := readRemote_yields (p := p)
      (enlisting_lacked v ⟨p.path v.pathPrefix, owner⟩ (.share p.kind p.name id owner.region))
      (fun s i hs scope => hs.ready rfl scope) other
      fun none => nomatch member.symm.trans none
    apply read.weaken
    intro s hs
    cases hs with
    | lacked lacked => exact lacked

/-- What comes of looking for a value: it is told, or the run is over. -/
theorem fetch_yields : Yields (v.Pending ⟨p.path v.pathPrefix, owner⟩)
    (v.fetch (p.reference v.pathPrefix) owner)
    (v.Fetched ⟨p.path v.pathPrefix, owner⟩ (p.path v.pathPrefix)) v.Ended := by
  rw [fetch_eq]
  by_cases same : owner = v.caller
  · rw [if_pos same]
    subst same
    have seeks : v.Seeks ⟨p.path v.pathPrefix, v.caller⟩
        (.localValue v.caller (p.path v.pathPrefix)) (p.path v.pathPrefix) := .own
    have asked := askFor_yields seeks rfl fun s (hs : v.Pending _ s) => hs.ready _
    exact asked.mono fun _ _ hs => hs.fetched seeks rfl
  · rw [if_neg same]
    split
    · next shares => exact readShared_yields shares same
    · exact readRemote_yields (enlisting_pending v _) (fun s i hs _ => hs.ready _) same
        fun _ s hs => hs.toSound

/-- A request keeps a run sound, or ends it. -/
theorem recalled_yields {fetch : Lookup (Option String)}
    (fetched : Yields (v.Pending key) fetch (v.Fetched key path) v.Ended) :
    Yields v.Sound (recalled key path fetch) (fun _ s => v.Sound s) v.Ended := by
  constructor
  · intro s s' value hs run
    rcases recalled_ok run with ⟨-, rfl⟩ | ⟨unknown, x, t, asked, -, rfl⟩
    · exact hs.of_eq (by simp) (by simp) rfl fun _ _ => id
    · cases fetched.ok (hs.pending unknown) asked with
      | told told => exact told.remember _
  · intro s s' e hs run
    obtain ⟨unknown, failed | ⟨asked, rfl⟩⟩ := recalled_error run
    · exact fetched.error (hs.pending unknown) failed
    · cases fetched.ok (hs.pending unknown) asked with
      | ended ended => exact ended

theorem learn_yields : Yields v.Sound (v.learn p owner) (fun _ s => v.Sound s) v.Ended :=
  recalled_yields fetch_yields

theorem resolveAttachment_yields {kind : AttachmentKind} {child name gatewayId : String} :
    Yields v.Sound (v.resolveAttachment kind child name gatewayId owner) (fun _ s => v.Sound s)
      v.Ended := by
  unfold resolveAttachment
  dsimp only
  split
  · exact learn_yields
  · next other =>
    apply recalled_yields
    apply Yields.bind _ (identity_yields (enlisting_pending v _) rfl
      fun _ s hs => hs.fault .misconfigured)
    intro i
    apply Yields.assuming
    intro canonical
    have seeks := @Seeks.provided v kind child name gatewayId _ _ other canonical
    have asked := askFor_yields seeks rfl fun s (hs : v.Pending _ s) => hs.ready _
    exact asked.mono fun _ _ hs => hs.fetched seeks rfl

/-- Noting a route keeps what does not speak of the routes that have been noted. -/
theorem noteRoute_yields_of {J : Run → Prop} {fail : PlanError → Run → Prop}
    (noted : ∀ s key, J s → J { s with plannedRoutes := s.plannedRoutes.add key })
    (key : String) : Yields J (noteRoute key) (fun _ s => J s) fail where
  ok {s s' new} hs run := by
    rw [noteRoute_run] at run
    split at run
    · cases run
      exact hs
    · cases run
      exact noted s key hs
  error {s s' e} hs run := by
    rw [noteRoute_run] at run
    split at run
    · exact nomatch run
    · exact nomatch run

/-- Noting a route asks nothing. -/
theorem noteRoute_yields (key : String) :
    Yields v.Sound (noteRoute key) (fun _ s => v.Sound s) v.Ended :=
  noteRoute_yields_of (fun _ _ hs => hs.of_eq rfl rfl rfl fun _ _ => id) key

end Vantage

/-! ## A whole run -/

/-- Planning a unit keeps a run sound, or ends it. -/
theorem Plan.build_yields {v : Vantage} {t : Topology} :
    Yields v.Sound (Plan.build v t) (fun _ s => v.Sound s) v.Ended :=
  Plan.build_closed (closed_yields v.Sound v.Ended) (fun _ _ => Vantage.learn_yields)
    (fun _ _ _ _ _ => Vantage.resolveAttachment_yields) Vantage.noteRoute_yields
    ⟨fun hs run => by cases run; exact hs, fun _ run => nomatch run⟩
    fun _ fault => yields_throw fun _ hs => .fault hs fault

/-- The error that the unit of a scope ends with, if no plan comes of it. -/
def Topology.failureOf? (t : Topology) (scope : Scope) (backend : Backend) : Option PlanError :=
  match t.plan scope backend with
  | .ok .. => none
  | .error e _ => some e

namespace Vantage

variable {v : Vantage} {s : Run} {failure : Option PlanError}

/-- A run has come to its end, with an error or without. -/
inductive Concluded (v : Vantage) (s : Run) : Option PlanError → Prop
  | planned (sound : v.Sound s) : Concluded v s none
  | refused {e : PlanError} (ended : v.Ended e s) : Concluded v s (some e)

theorem Concluded.orderly (h : v.Concluded s failure) : v.Orderly s := by
  cases h with
  | planned sound => exact sound.orderly
  | refused ended =>
    cases ended with
    | failed orderly => exact orderly
    | missing orderly => exact orderly
    | fault sound => exact sound.orderly

/-- What was not in a share is not the last thing that was looked for. -/
theorem Concluded.last (h : v.Concluded s failure) {i : Inquiry}
    (last : s.inquiries.getLast? = some i) : i.missesShare = false := by
  have sound (h : v.Sound s) : i.missesShare = false := by
    obtain ⟨x, answer⟩ := h.answered i last
    simp [Inquiry.missesShare, answer]
  cases h with
  | planned h => exact sound h
  | refused ended =>
    cases ended with
    | failed _ last' _ answer =>
      cases last.symm.trans last'
      simp [Inquiry.missesShare, answer]
    | missing _ last' _ _ read =>
      cases last.symm.trans last'
      simp [Inquiry.missesShare, read]
    | fault h => exact sound h

theorem Concluded.lookupFailed (h : v.Concluded s failure) {path : String} {owner : Scope}
    {source : LookupError} : failure = some (.lookupFailed path owner source) ↔
      ∃ i, s.inquiries.getLast? = some i ∧ v.Seeks i.key i.exchange.query path ∧
        i.key.owner = owner ∧ i.exchange.answer = .failed source := by
  constructor
  · rintro rfl
    cases h with
    | refused ended =>
      cases ended with
      | failed _ last seeks answer => exact ⟨_, last, seeks, rfl, answer⟩
      | fault _ fault => exact nomatch fault
  · rintro ⟨i, last, seeks, rfl, answer⟩
    have sound (h : v.Sound s) : False := by
      obtain ⟨x, value⟩ := h.answered i last
      exact nomatch answer.symm.trans value
    cases h with
    | planned h => exact (sound h).elim
    | refused ended =>
      cases ended with
      | failed _ last' seeks' answer' =>
        cases last.symm.trans last'
        cases answer.symm.trans answer'
        rw [seeks.path_unique seeks']
      | missing _ last' _ answer' =>
        cases last.symm.trans last'
        exact nomatch answer.symm.trans answer'
      | fault h => exact (sound h).elim

theorem Concluded.notFound (h : v.Concluded s failure) {path : String} {owner : Scope} :
    failure = some (.notFound path owner) ↔
      ∃ i, s.inquiries.getLast? = some i ∧ v.Seeks i.key i.exchange.query path ∧
        i.key.owner = owner ∧ i.exchange.answer = .missing ∧ i.isShare = false := by
  constructor
  · rintro rfl
    cases h with
    | refused ended =>
      cases ended with
      | missing _ last seeks answer read => exact ⟨_, last, seeks, rfl, answer, read⟩
      | fault _ fault => exact nomatch fault
  · rintro ⟨i, last, seeks, rfl, answer, read⟩
    have sound (h : v.Sound s) : False := by
      obtain ⟨x, value⟩ := h.answered i last
      exact nomatch answer.symm.trans value
    cases h with
    | planned h => exact (sound h).elim
    | refused ended =>
      cases ended with
      | failed _ last' _ answer' =>
        cases last.symm.trans last'
        exact nomatch answer.symm.trans answer'
      | missing _ last' seeks' =>
        cases last.symm.trans last'
        rw [seeks.path_unique seeks']
      | fault h => exact (sound h).elim

/-- Nothing is read twice. -/
theorem Orderly.reads (h : v.Orderly s) : (s.queries.filterMap Query.reads?).Nodup := by
  have queries : s.queries = s.inquiries.map (·.exchange.query) := by
    rw [Run.queries, ← h.complete, List.map_map]
    rfl
  rw [queries, List.filterMap_map]
  refine List.pairwise_filterMap.mpr
    ((List.pairwise_map.mp h.once).imp_of_mem fun {i j} hi hj differ k hk k' hk' same => ?_)
  obtain ⟨path, seeks⟩ := h.posed i hi
  obtain ⟨path', seeks'⟩ := h.posed j hj
  obtain ⟨key, share⟩ := seeks.reads hk
  obtain ⟨key', share'⟩ := seeks'.reads hk'
  exact differ (Prod.ext (key.symm.trans (same.trans key')) (share.trans share'.symm))

/-- Nothing is looked for twice in a share. -/
theorem Orderly.shares (h : v.Orderly s) :
    ((s.inquiries.filter Inquiry.isShare).map (·.key)).Nodup := by
  refine List.pairwise_map.mpr
    (((List.pairwise_map.mp h.once).filter _).imp_of_mem fun {i j} hi hj differ same => ?_)
  exact differ (Prod.ext same
    ((List.mem_filter.mp hi).2.trans (List.mem_filter.mp hj).2.symm))

/-- What comes next after an inquiry follows it. -/
theorem Orderly.next (h : v.Orderly s) {before after : List Inquiry} {i j : Inquiry}
    (split : s.inquiries = before ++ i :: j :: after) : i.Follows j := by
  have chain := h.chain
  rw [split, List.isChain_append] at chain
  exact (List.isChain_cons_cons.mp chain.2.1).1

/-- What is true of the questions of a unit, and of the error that it ends with if no plan
comes of it. -/
structure FailsFast (v : Vantage) (s : Run) (failure : Option PlanError) : Prop where
  /-- The inquiries are the questions and their answers, in order. -/
  complete : s.inquiries.map (·.exchange) = s.exchanges
  /-- Every question is asked for a value. -/
  posed : ∀ i ∈ s.inquiries, ∃ path, v.Seeks i.key i.exchange.query path
  /-- No path is read twice in a scope, whether locally or remotely. -/
  reads : (s.queries.filterMap Query.reads?).Nodup
  /-- No path of an owner is looked for twice in a share. -/
  shares : ((s.inquiries.filter Inquiry.isShare).map (·.key)).Nodup
  /-- What a share does not have is read right afterwards, in its owner's scope. -/
  missed : ∀ before i after, s.inquiries = before ++ i :: after → i.missesShare = true →
    ∃ identity answer rest, identity.scope = i.key.owner ∧
      after = ⟨i.key, .remoteValue identity i.key.path, answer⟩ :: rest
  /-- Nothing is asked after a failure, or after something that is not there. -/
  last : ∀ before i after, s.inquiries = before ++ i :: after → i.isFatal = true → after = []
  /-- The unit ends with a failed lookup if and only if its last question failed. -/
  lookupFailed : ∀ path owner source, failure = some (.lookupFailed path owner source) ↔
    ∃ i, s.inquiries.getLast? = some i ∧ v.Seeks i.key i.exchange.query path ∧
      i.key.owner = owner ∧ i.exchange.answer = .failed source
  /-- The unit ends with something that was not found if and only if that is what it read or
  asked for last. -/
  notFound : ∀ path owner, failure = some (.notFound path owner) ↔
    ∃ i, s.inquiries.getLast? = some i ∧ v.Seeks i.key i.exchange.query path ∧
      i.key.owner = owner ∧ i.exchange.answer = .missing ∧ i.isShare = false

theorem Concluded.failsFast (h : v.Concluded s failure) : v.FailsFast s failure where
  complete := h.orderly.complete
  posed := h.orderly.posed
  reads := h.orderly.reads
  shares := h.orderly.shares
  missed before i after split misses := by
    cases after with
    | nil =>
      have last := h.last (i := i) (by rw [split, List.getLast?_concat])
      exact nomatch last.symm.trans misses
    | cons j rest =>
      obtain ⟨key, identity, query, scope⟩ := (h.orderly.next split).read misses
      obtain ⟨_, q, answer⟩ := j
      cases key
      cases query
      exact ⟨identity, answer, rest, scope, rfl⟩
  last before i after split fatal := by
    cases after with
    | nil => rfl
    | cons j rest => exact nomatch (h.orderly.next split).calm.symm.trans fatal
  lookupFailed _ _ _ := h.lookupFailed
  notFound _ _ := h.notFound

/-- The ids that stages use without asking are in the map: that of the gateway when an
attachment of another owner is resolved, and those of the route tables when static routes are
planned. -/
structure Supplied (v : Vantage) (t : Topology) : Prop where
  gateways : ∀ {s s' s'' : Run} {m m' : UnitMap} {ds before after : List Attachment}
    {a : Attachment},
    ((UnitMap.ownGateways t v.caller).foldlM (UnitMap.resolveGateway v)
      { scope := v.caller }).run s = .ok m s' →
    t.attachments v.accounts v.caller = .ok ds →
    ds.filter (UnitMap.concerns v.caller) = before ++ a :: after →
    (before.foldlM (UnitMap.resolveAttachment v t) m).run s' = .ok m' s'' →
    a.owner ≠ v.caller → (m'.gatewayId? a.gateway a.gatewayAccount).isSome = true
  tables : ∀ {s s' : Run} {m : UnitMap}, (UnitMap.build v t).run s = .ok m s' →
    ∀ g ∈ UnitMap.ownGateways t m.scope, ∀ table ∈ g.routeTables,
      m.hasRouteTable g.region g.name table.name = true

theorem supplied (v : Vantage) (t : Topology) : v.Supplied t where
  gateways {s s' s'' m m' ds before after a} own described split run foreign := by
    have held : UnitMap.HoldsOwn v t before m' :=
      run_foldlM_ok (UnitMap.HoldsOwn v t) (fun _ _ _ _ _ _ _ held step => held.step step)
        (.start own) run
    have ha : a ∈ ds.filter (UnitMap.concerns v.caller) := by
      rw [split]
      exact List.mem_append_right _ List.mem_cons_self
    obtain ⟨listed, relevant⟩ := List.mem_filter.mp ha
    exact held.hasOwn.of_foreign described listed relevant foreign
  tables run _ hg _ defined := UnitMap.build_hasRouteTable run hg defined

end Vantage

/-- Whatever the topology and the backend are, valid or not: a unit asks for nothing twice and
stops at the first question without an answer, with the error that this question calls for;
and it never finds something missing without having asked for it. -/
theorem lookups_fail_fast (t : Topology) (scope : Scope) (backend : Backend) :
    (t.vantage scope backend).FailsFast (t.runOf scope backend) (t.failureOf? scope backend) ∧
      (t.vantage scope backend).Supplied t := by
  refine ⟨Vantage.Concluded.failsFast ?_, Vantage.supplied _ t⟩
  have start := (t.vantage scope backend).sound_start
  unfold Topology.runOf Topology.failureOf?
  cases run : t.plan scope backend with
  | ok p s => exact .planned (Plan.build_yields.ok start run)
  | error e s => exact .refused (Plan.build_yields.error start run)

/-- Of two route tables that nobody has, only the first is looked for. -/
example :
    (Topology.sample.runOf ⟨"Workload", "us-east-1"⟩ (.fixed fun _ => .missing)).queries.length = 1
      ∧ Topology.sample.failureOf? ⟨"Workload", "us-east-1"⟩ (.fixed fun _ => .missing) =
        some (.notFound "/accel/network/transitGateways/Core/routeTables/spokes/id"
          ⟨"Network", "us-east-1"⟩) := by
  decide +kernel

end Interlink
