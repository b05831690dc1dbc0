import Interlink.Plan
import Interlink.Proofs.Permission

/-!
# What is learned once is learned for good

The resolver takes calls of two sorts, for the value of a reference and for the
id of an attachment, in any order, and a call that fails does not end the
session. Both sorts share one memory. `calls_memoized` says what that memory does
in a session: what a call for a key has come to, every later call for the key
comes to, and nobody is asked again; a call that fails leaves no trace in the
memory; and until a call for a key has succeeded, every call for it goes as it
would if it were the first one.

The last point compares two runs, the one in which the call is made and one that
remembers nothing (`Run.forgetful`). They have the same exchanges behind them, so
a backend that changes its mind changes it in both. What is kept from earlier
calls is the identities, and these do not show: an identity that is kept is the
one that would be made (`Vetted`).
-/

namespace Interlink

/-! ## Calls -/

/-- A call of the resolver. -/
inductive Call
  /-- For the value of a reference. -/
  | value (r : Reference) (owner : Scope)
  /-- For the id of an attachment. -/
  | attachment (kind : AttachmentKind) (child name gatewayId : String) (owner : Scope)
deriving DecidableEq, Repr, Inhabited

namespace Vantage

/-- What is done for a call. -/
def call (v : Vantage) : Call → Lookup String
  | .value r owner => v.resolve r owner
  | .attachment kind child name gatewayId owner =>
    v.resolveAttachment kind child name gatewayId owner

/-- What a call is remembered under: a path and its owner, and for an attachment
of another owner the gateway too. -/
def callKey (v : Vantage) : Call → RecallKey
  | .value r owner => ⟨r.path, owner⟩
  | .attachment kind child name gatewayId owner =>
    let path := (Published.attachment kind child name).path v.pathPrefix
    if owner = v.caller then ⟨path, owner⟩ else attachmentRecallKey path gatewayId owner

/-- The path that a call is about. -/
def callPath (v : Vantage) : Call → String
  | .value r _ => r.path
  | .attachment kind child name _ _ => (Published.attachment kind child name).path v.pathPrefix

/-- How the answer to a call is found when nothing is remembered. -/
def lookUp (v : Vantage) : Call → Lookup (Option String)
  | .value r owner => v.fetch r owner
  | .attachment kind child name gatewayId owner =>
    let r := (Published.attachment kind child name).reference v.pathPrefix
    if owner = v.caller then v.fetch r owner
    else do
      let role := RolePurpose.describeAttachments.roleName v.pathPrefix owner.region
      let identity ← v.identity .describeAttachments owner (some role)
      v.askFor r.path owner (.attachment identity gatewayId name)

/-- Both sorts of calls go through one memory. -/
theorem call_eq (v : Vantage) (c : Call) :
    v.call c = recalled (v.callKey c) (v.callPath c) (v.lookUp c) := by
  cases c with
  | value r owner => rfl
  | attachment kind child name gatewayId owner =>
    by_cases own : owner = v.caller
    · simp only [call, resolveAttachment, callKey, lookUp, own, if_true]
      rfl
    · simp only [call, resolveAttachment, callKey, lookUp, own, if_false]
      rfl

end Vantage

/-! ## What a call does -/

namespace Recall

/-- A value whose key is new is stored. -/
theorem insert_fst_of_unknown {r : Recall} {key : RecallKey} (unknown : r.values.get? key = none)
    (value : String) : (r.insert key value).1 = value := by
  rw [insert, Memo.remember_eq, unknown, Option.getD_none]

end Recall

namespace Vantage

open Lookup

variable {v : Vantage}

theorem lookUp_keeps {J : Run → Prop} (h : Run.Unmoved J) (c : Call) : Keeps J (v.lookUp c) := by
  cases c with
  | value r owner => exact fetch_keeps h
  | attachment kind child name gatewayId owner =>
    simp only [lookUp]
    split
    · exact fetch_keeps h
    · exact (identity_keeps h).bind fun _ => askFor_keeps h

/-- Nobody answers who has not been asked. -/
theorem askFor_asks (es : List Exchange) {path : String} {owner : Scope} {q : Query} :
    Meets (fun s => es <+: s.exchanges) (v.askFor path owner q)
      (fun _ s => es.length < s.exchanges.length) fun _ => True := by
  have longer (s : Run) (a : Answer) (hs : es <+: s.exchanges) :
      es.length < (s.exchange q a).exchanges.length := by
    have := hs.length_le
    simp only [Run.exchanges_exchange, List.length_append, List.length_singleton]
    omega
  exact meets_askFor (fun s x hs => longer s _ hs) (fun s hs => longer s _ hs) fun _ _ _ => trivial

theorem asks_of_identity (es : List Exchange) {purpose : RolePurpose} {owner : Scope}
    {role : Option String} {path : String} {q : Identity → Query} :
    Meets (fun s => es <+: s.exchanges)
      (v.identity purpose owner role >>= fun i => v.askFor path owner (q i))
      (fun _ s => es.length < s.exchanges.length) fun _ => True := by
  refine Meets.bind (fun _ s => es <+: s.exchanges) ?_ fun i => askFor_asks es
  exact meets_identity (fun _ _ _ hs _ _ => hs) (fun _ _ hs _ _ => hs) fun _ _ _ => trivial

theorem fetch_asks (es : List Exchange) (r : Reference) (owner : Scope) :
    Meets (fun s => es <+: s.exchanges) (v.fetch r owner)
      (fun _ s => es.length < s.exchanges.length) fun _ => True := by
  rw [fetch_eq]
  split
  · exact askFor_asks es
  · split
    · refine Meets.bind (fun _ s => es <+: s.exchanges)
        (meets_ofExcept (fun _ _ _ hs => hs) fun _ _ => trivial) fun id => ?_
      refine (askFor_asks es).bind _ fun found => ?_
      cases found with
      | some value => exact meets_pure fun _ hs => hs
      | none =>
        -- The share has been asked in vain, and the owner's store is asked after it.
        constructor
        · intro s s' a hs run
          have more := (asks_of_identity s.exchanges).ok (List.prefix_refl _) run
          exact ⟨more.1, Nat.lt_trans hs more.2⟩
        · intro s s' e _ run
          exact ⟨((asks_of_identity s.exchanges).error (List.prefix_refl _) run).1, trivial⟩
    · exact asks_of_identity es

theorem lookUp_asks (es : List Exchange) (c : Call) :
    Meets (fun s => es <+: s.exchanges) (v.lookUp c)
      (fun _ s => es.length < s.exchanges.length) fun _ => True := by
  cases c with
  | value r owner => exact fetch_asks es r owner
  | attachment kind child name gatewayId owner =>
    simp only [lookUp]
    split
    · exact fetch_asks es _ owner
    · exact asks_of_identity es

end Vantage

/-! ## What does not show -/

/-- The run with the same exchanges behind it that remembers nothing. -/
def Run.forgetful (s : Run) : Run := { s with values := {}, helpers := {} }

namespace Vantage

/-- Two runs that a backend cannot tell apart, in either of which the identities
that are kept are those that would be made. -/
structure Alike (v : Vantage) (s s' : Run) : Prop where
  exchanges : s.exchanges = s'.exchanges
  vetted : v.Vetted s
  vetted' : v.Vetted s'

/-- Two results are the same value or the same error, and the runs are alike. -/
inductive EndAlike (v : Vantage) {α : Type} :
    EStateM.Result PlanError Run α → EStateM.Result PlanError Run α → Prop
  | ok (a : α) {s s' : Run} (alike : v.Alike s s') : EndAlike v (.ok a s) (.ok a s')
  | error (e : PlanError) {s s' : Run} (alike : v.Alike s s') :
      EndAlike v (.error e s) (.error e s')

/-- A lookup that goes the same way from runs that are alike. -/
def Oblivious (v : Vantage) {α : Type} (x : Lookup α) : Prop :=
  ∀ s s', v.Alike s s' → v.EndAlike (x.run s) (x.run s')

section Oblivious

variable {v : Vantage} {α β : Type} {x : Lookup α}

theorem oblivious_pure {a : α} : v.Oblivious (pure a) := by
  intro s s' alike
  exact .ok a alike

theorem oblivious_throw {e : PlanError} : v.Oblivious (throw e : Lookup α) := by
  intro s s' alike
  exact .error e alike

theorem oblivious_ofExcept {r : Except PlanError α} : v.Oblivious (Lookup.ofExcept r) := by
  cases r with
  | ok a => exact oblivious_pure
  | error e => exact oblivious_throw

theorem Oblivious.bind {f : α → Lookup β} (hx : v.Oblivious x) (hf : ∀ a, v.Oblivious (f a)) :
    v.Oblivious (x >>= f) := by
  intro s s' alike
  have ends : v.EndAlike (x s) (x s') := hx s s' alike
  show v.EndAlike (EStateM.bind x f s) (EStateM.bind x f s')
  unfold EStateM.bind
  generalize x s = here at ends ⊢
  generalize x s' = there at ends ⊢
  cases ends with
  | ok a next => exact hf a _ _ next
  | error e next => exact .error e next

theorem oblivious_askFor {path : String} {owner : Scope} {q : Query} :
    v.Oblivious (v.askFor path owner q) := by
  intro s s' alike
  have next (a : Answer) : v.Alike (s.exchange q a) (s'.exchange q a) := by
    refine ⟨?_, alike.vetted, alike.vetted'⟩
    rw [Run.exchanges_exchange, Run.exchanges_exchange, alike.exchanges]
  rw [askFor_run, askFor_run, ← alike.exchanges]
  cases v.backend s.exchanges q with
  | value text => exact .ok _ (next _)
  | missing => exact .ok _ (next _)
  | failed e => exact .error _ (next _)

/-- An identity that is asked for with its role comes out the same, whether it
is kept already or not. -/
theorem oblivious_identity {purpose : RolePurpose} {owner : Scope} {role : Option String}
    (canonical : role = v.roleFor purpose owner) : v.Oblivious (v.identity purpose owner role) := by
  intro s s' alike
  rw [identity_run, identity_run]
  cases member : v.accounts.accountId? owner.account with
  | none => exact .error _ alike
  | some id =>
    have new : v.Canonical purpose owner ⟨owner.account, id, owner.region, role⟩ :=
      ⟨rfl, member, canonical⟩
    have kept {t : Run} {i : Identity} (vetted : v.Vetted t)
        (found : t.helpers.get? ⟨purpose, owner.account, owner.region⟩ = some i) :
        i = ⟨owner.account, id, owner.region, role⟩ := (vetted _ _ found).unique new
    cases here : s.helpers.get? ⟨purpose, owner.account, owner.region⟩ with
    | some i =>
      rw [kept alike.vetted here]
      cases there : s'.helpers.get? ⟨purpose, owner.account, owner.region⟩ with
      | some i' =>
        rw [kept alike.vetted' there]
        exact .ok _ alike
      | none => exact .ok _ ⟨alike.exchanges, alike.vetted, alike.vetted'.enlist new⟩
    | none =>
      cases there : s'.helpers.get? ⟨purpose, owner.account, owner.region⟩ with
      | some i' =>
        rw [kept alike.vetted' there]
        exact .ok _ ⟨alike.exchanges, alike.vetted.enlist new, alike.vetted'⟩
      | none => exact .ok _ ⟨alike.exchanges, alike.vetted.enlist new, alike.vetted'.enlist new⟩

theorem oblivious_readRemote {r : Reference} {owner : Scope} {role : Option String}
    (canonical : role = v.roleFor .parameterShare owner) :
    v.Oblivious (v.readRemote r owner role) :=
  (oblivious_identity canonical).bind fun _ => oblivious_askFor

theorem oblivious_fetch (r : Reference) (owner : Scope) : v.Oblivious (v.fetch r owner) := by
  rw [fetch_eq]
  split
  · exact oblivious_askFor
  · split
    · next share =>
      obtain ⟨other, -, -⟩ := looksInShare_iff.mp share
      refine oblivious_ofExcept.bind fun id => oblivious_askFor.bind fun found => ?_
      cases found with
      | some value => exact oblivious_pure
      | none => exact oblivious_readRemote (roleFor_other other _).symm
    · exact oblivious_readRemote rfl

theorem oblivious_lookUp (c : Call) : v.Oblivious (v.lookUp c) := by
  cases c with
  | value r owner => exact oblivious_fetch r owner
  | attachment kind child name gatewayId owner =>
    simp only [lookUp]
    split
    · exact oblivious_fetch _ owner
    · exact (oblivious_identity rfl).bind fun _ => oblivious_askFor

end Oblivious

end Vantage

/-! ## Sessions -/

/-- A call with what came of it. -/
structure Served where
  call : Call
  /-- The run that the call found. -/
  before : Run
  outcome : Except PlanError String
  /-- The run that the call left. -/
  after : Run

/-- Whether a call came to a value without asking anybody. -/
def Served.isRecalled (x : Served) : Bool :=
  x.outcome.isOk && x.after.exchanges == x.before.exchanges

namespace Vantage

variable {v : Vantage} {s : Run}

/-- Serve a call. -/
def serve (v : Vantage) (s : Run) (c : Call) : Served :=
  match (v.call c).run s with
  | .ok value s' => ⟨c, s, .ok value, s'⟩
  | .error e s' => ⟨c, s, .error e, s'⟩

/-- Serve some calls, each in the run that the call before has left. -/
def session (v : Vantage) (s : Run) : List Call → List Served
  | [] => []
  | c :: rest => v.serve s c :: v.session (v.serve s c).after rest

/-- What can come of a call. -/
inductive Serving (v : Vantage) (s : Run) (c : Call) (x : Served) : Prop
  /-- The value is remembered, and this is counted. -/
  | recalled {value : String} (known : s.Knows (v.callKey c) value)
      (outcome : x.outcome = .ok value) (after : x.after = (s.note (v.callKey c)).hit)
  /-- The value is not remembered, and somebody is asked for it. It is remembered
  from then on. -/
  | learned {value : String} (unknown : s.values.values.get? (v.callKey c) = none)
      (outcome : x.outcome = .ok value)
      (asked : s.exchanges.length < x.after.exchanges.length)
      (knows : ∀ {key : RecallKey} {y : String},
        x.after.Knows key y ↔ s.Knows key y ∨ (key = v.callKey c ∧ y = value))
      (hits : x.after.values.hits = s.values.hits)
  /-- The value is not remembered, and there is none. -/
  | failed {e : PlanError} (unknown : s.values.values.get? (v.callKey c) = none)
      (outcome : x.outcome = .error e) (values : x.after.values = s.values)

theorem unmoved_values (r : Recall) : Run.Unmoved (·.values = r) :=
  ⟨fun _ _ hs => hs, fun _ _ hs => hs⟩

/-- Every call is served in one of three ways. -/
theorem serving (v : Vantage) (s : Run) (c : Call) : v.Serving s c (v.serve s c) := by
  unfold serve
  rw [call_eq, recalled_run]
  cases known : s.values.values.get? (v.callKey c) with
  | some value => exact .recalled known rfl rfl
  | none =>
    have noted : (s.note (v.callKey c)).values = s.values := rfl
    have values := lookUp_keeps (v := v) (unmoved_values s.values) c
    have asks := lookUp_asks (v := v) s.exchanges c
    cases asked : (v.lookUp c).run (s.note (v.callKey c)) with
    | error e t => exact .failed known rfl (values.error noted asked).2
    | ok found t =>
      have same : t.values = s.values := (values.ok noted asked).2
      cases found with
      | none => exact .failed known rfl same
      | some value =>
        have unknown : t.values.values.get? (v.callKey c) = none := by rw [same, known]
        have first : (t.values.insert (v.callKey c) value).1 = value :=
          Recall.insert_fst_of_unknown unknown value
        refine .learned known (congrArg Except.ok first) (asks.ok (by simp) asked).2 ?_ ?_
        · intro key y
          show (t.remember (v.callKey c) value).Knows key y ↔ _
          rw [Run.knows_remember]
          unfold Run.Knows
          rw [same]
          constructor
          · rintro (old | ⟨-, rfl, rfl⟩)
            · exact .inl old
            · exact .inr ⟨rfl, rfl⟩
          · rintro (old | ⟨rfl, rfl⟩)
            · exact .inl old
            · exact .inr ⟨known, rfl, rfl⟩
        · show t.values.hits = s.values.hits
          rw [same]

/-- Where nothing is remembered for a call, it goes the same way in runs that are
alike. -/
theorem call_alike {s' : Run} (alike : v.Alike s s') {c : Call}
    (unknown : s.values.values.get? (v.callKey c) = none)
    (unknown' : s'.values.values.get? (v.callKey c) = none) :
    v.EndAlike ((v.call c).run s) ((v.call c).run s') := by
  have noted : v.Alike (s.note (v.callKey c)) (s'.note (v.callKey c)) := by
    refine ⟨?_, alike.vetted, alike.vetted'⟩
    rw [Run.exchanges_note, Run.exchanges_note, alike.exchanges]
  have ends := oblivious_lookUp c _ _ noted
  have first {t u : Run} {found : Option String} (old : t.values.values.get? (v.callKey c) = none)
      (asked : (v.lookUp c).run (t.note (v.callKey c)) = .ok found u) (value : String) :
      (u.values.insert (v.callKey c) value).1 = value := by
    have same : u.values = t.values :=
      ((lookUp_keeps (unmoved_values t.values) c).ok (s := t.note (v.callKey c)) rfl asked).2
    exact Recall.insert_fst_of_unknown (by rw [same, old]) value
  rw [call_eq, recalled_run, recalled_run, unknown, unknown']
  cases here : (v.lookUp c).run (s.note (v.callKey c)) with
  | error e t =>
    rw [here] at ends
    cases there : (v.lookUp c).run (s'.note (v.callKey c)) with
    | ok found t' =>
      rw [there] at ends
      exact nomatch ends
    | error e' t' =>
      rw [there] at ends
      cases ends with
      | error _ next => exact .error e next
  | ok found t =>
    rw [here] at ends
    cases there : (v.lookUp c).run (s'.note (v.callKey c)) with
    | error e' t' =>
      rw [there] at ends
      exact nomatch ends
    | ok found' t' =>
      rw [there] at ends
      cases ends with
      | ok _ next =>
        cases found with
        | none => exact .error _ next
        | some value =>
          simp only [first unknown here, first unknown' there]
          exact .ok value ⟨next.exchanges, next.vetted, next.vetted'⟩

theorem EndAlike.served {s' : Run} {c : Call}
    (ends : v.EndAlike ((v.call c).run s) ((v.call c).run s')) :
    (v.serve s c).outcome = (v.serve s' c).outcome ∧
      v.Alike (v.serve s c).after (v.serve s' c).after := by
  unfold serve
  generalize (v.call c).run s = here at ends ⊢
  generalize (v.call c).run s' = there at ends ⊢
  cases ends with
  | ok value next => exact ⟨rfl, next⟩
  | error e next => exact ⟨rfl, next⟩

/-- Whatever comes of a call, the identities that are kept are those that would
be made. -/
theorem vetted_serve (vetted : v.Vetted s) (c : Call) : v.Vetted (v.serve s c).after := by
  cases known : s.values.values.get? (v.callKey c) with
  | some value =>
    have after : (v.serve s c).after = (s.note (v.callKey c)).hit := by
      unfold serve
      rw [call_eq, recalled_run, known]
    rw [after]
    exact vetted
  | none => exact (call_alike ⟨rfl, vetted, vetted⟩ known known).served.2.vetted

/-! ## What a session has learned -/

@[simp] theorem serve_call (s : Run) (c : Call) : (v.serve s c).call = c := by
  unfold serve
  split <;> rfl

@[simp] theorem serve_before (s : Run) (c : Call) : (v.serve s c).before = s := by
  unfold serve
  split <;> rfl

/-- A call is answered from memory if and only if its key is known. -/
theorem isRecalled_serve (s : Run) (c : Call) :
    (v.serve s c).isRecalled = true ↔ ∃ value, s.Knows (v.callKey c) value := by
  unfold Served.isRecalled
  rw [serve_before]
  cases v.serving s c with
  | recalled known outcome after =>
    rw [outcome, after, Run.exchanges_hit, Run.exchanges_note, beq_self_eq_true]
    exact iff_of_true rfl ⟨_, known⟩
  | learned unknown outcome asked =>
    refine iff_of_false ?_ fun ⟨value, known⟩ => nomatch unknown.symm.trans known
    intro h
    have same := beq_iff_eq.mp (Bool.and_eq_true_iff.mp h).2
    rw [same] at asked
    exact Nat.lt_irrefl _ asked
  | failed unknown outcome =>
    refine iff_of_false ?_ fun ⟨value, known⟩ => nomatch unknown.symm.trans known
    rw [outcome]
    exact Bool.false_ne_true

/-- What is remembered is the answer, and nobody is asked for it. -/
theorem serve_of_known {c : Call} {value : String} (there : s.Knows (v.callKey c) value) :
    (v.serve s c).outcome = .ok value ∧ (v.serve s c).after.exchanges = s.exchanges := by
  cases v.serving s c with
  | recalled known outcome after =>
    rw [after, Run.exchanges_hit, Run.exchanges_note, outcome]
    exact ⟨congrArg _ (Option.some.inj (known.symm.trans there)), rfl⟩
  | learned unknown => exact nomatch unknown.symm.trans there
  | failed unknown => exact nomatch unknown.symm.trans there

/-- A call that fails teaches nothing and counts for nothing. -/
theorem serve_of_failed {c : Call} (error : (v.serve s c).outcome.isOk = false) :
    (v.serve s c).after.values = s.values := by
  cases v.serving s c with
  | recalled known outcome =>
    rw [outcome] at error
    exact nomatch error
  | learned unknown outcome =>
    rw [outcome] at error
    exact nomatch error
  | failed unknown outcome values => exact values

/-- A call for a key that is not known goes as if nothing had been called for
before. -/
theorem serve_of_unknown {c : Call} (vetted : v.Vetted s)
    (unknown : s.values.values.get? (v.callKey c) = none) :
    (v.serve s c).outcome = (v.serve s.forgetful c).outcome ∧
      (v.serve s c).after.exchanges = (v.serve s.forgetful c).after.exchanges := by
  have alike : v.Alike s s.forgetful := ⟨rfl, vetted, v.vetted_start⟩
  have ends := (call_alike alike unknown rfl).served
  exact ⟨ends.1, ends.2.exchanges⟩

/-- What is remembered after some calls, and how often that has been of use. -/
structure Tally (v : Vantage) (done : List Served) (s : Run) : Prop where
  vetted : v.Vetted s
  knows : ∀ {key : RecallKey} {value : String},
    s.Knows key value ↔ ∃ x ∈ done, v.callKey x.call = key ∧ x.outcome = .ok value
  hits : s.values.hits = done.countP Served.isRecalled

variable {done : List Served}

theorem tally_start (v : Vantage) : v.Tally [] {} where
  vetted := v.vetted_start
  knows := by
    intro key value
    simp [Run.Knows, Memo.get?]
  hits := rfl

/-- One more call keeps the tally. -/
theorem Tally.serve (tally : v.Tally done s) (c : Call) :
    v.Tally (done ++ [v.serve s c]) (v.serve s c).after := by
  have last {key : RecallKey} {value : String} :
      (∃ x ∈ done ++ [v.serve s c], v.callKey x.call = key ∧ x.outcome = .ok value) ↔
        s.Knows key value ∨ (v.callKey c = key ∧ (v.serve s c).outcome = .ok value) := by
    rw [tally.knows]
    simp only [List.mem_append, List.mem_singleton, or_and_right, exists_or, exists_eq_left,
      serve_call]
  have counted := isRecalled_serve (v := v) s c
  refine ⟨vetted_serve tally.vetted c, ?_, ?_⟩
  · intro key value
    rw [last]
    cases v.serving s c with
    | recalled known outcome after =>
      rw [after, Run.knows_hit, Run.knows_note, outcome]
      constructor
      · exact .inl
      · rintro (old | ⟨rfl, same⟩)
        · exact old
        · rwa [← Except.ok.inj same]
    | learned unknown outcome asked knows =>
      rw [knows, outcome, Except.ok.injEq]
      exact or_congr_right (and_congr eq_comm eq_comm)
    | failed unknown outcome values =>
      rw [outcome]
      unfold Run.Knows
      rw [values]
      simp
  · rw [List.countP_append, List.countP_singleton, ← tally.hits]
    cases v.serving s c with
    | recalled known outcome after =>
      rw [if_pos (counted.mpr ⟨_, known⟩), after]
      rfl
    | learned unknown outcome asked knows hits =>
      rw [if_neg fun h => ?_, hits]
      · rfl
      · obtain ⟨value, known⟩ := counted.mp h
        exact nomatch unknown.symm.trans known
    | failed unknown outcome values =>
      rw [if_neg fun h => ?_, values]
      · rfl
      · obtain ⟨value, known⟩ := counted.mp h
        exact nomatch unknown.symm.trans known

theorem tally_session {earlier rest : List Served} {x : Served} :
    ∀ {cs : List Call} {done : List Served} {s : Run}, v.Tally done s →
      v.session s cs = earlier ++ x :: rest →
      v.Tally (done ++ earlier) x.before ∧ x = v.serve x.before x.call
  | [], _, _, _, split => by simp [session] at split
  | c :: cs, done, s, tally, split => by
    cases earlier with
    | nil =>
      obtain ⟨rfl, -⟩ := List.cons.inj split
      rw [serve_before, serve_call, List.append_nil]
      exact ⟨tally, rfl⟩
    | cons y earlier =>
      obtain ⟨rfl, others⟩ := List.cons.inj split
      have last := tally_session (tally.serve c) others
      rwa [List.append_assoc, List.singleton_append] at last

/-- What a resolver that remembers does with a call, some calls having been
served. -/
structure Memoized (v : Vantage) (earlier : List Served) (x : Served) : Prop where
  /-- What a call for the key has come to, it comes to, and nobody is asked. -/
  remembered : ∀ y ∈ earlier, ∀ value, v.callKey y.call = v.callKey x.call →
    y.outcome = .ok value → x.outcome = .ok value ∧ x.after.exchanges = x.before.exchanges
  /-- If no call for the key has succeeded, it goes as if nothing had been
  called for before. -/
  afresh : (∀ y ∈ earlier, v.callKey y.call = v.callKey x.call → y.outcome.isOk = false) →
    x.outcome = (v.serve x.before.forgetful x.call).outcome ∧
      x.after.exchanges = (v.serve x.before.forgetful x.call).after.exchanges
  /-- If it fails, it leaves what is remembered and what has been counted as
  they were. -/
  failed : x.outcome.isOk = false → x.after.values = x.before.values
  /-- It is answered from memory only if a call for the key has succeeded. -/
  recalled : x.isRecalled = true ↔
    ∃ y ∈ earlier, v.callKey y.call = v.callKey x.call ∧ y.outcome.isOk = true
  /-- The answers from memory are counted. -/
  hits : x.after.values.hits = (earlier ++ [x]).countP Served.isRecalled

theorem exists_of_isOk {r : Except PlanError String} (h : r.isOk = true) :
    ∃ value, r = .ok value := by
  cases r with
  | ok value => exact ⟨value, rfl⟩
  | error e => exact nomatch h

/-- A key is known if and only if a call for it has succeeded. -/
theorem Tally.known_iff (tally : v.Tally done s) (key : RecallKey) :
    (∃ value, s.Knows key value) ↔
      ∃ y ∈ done, v.callKey y.call = key ∧ y.outcome.isOk = true := by
  constructor
  · rintro ⟨value, known⟩
    obtain ⟨y, hy, same, outcome⟩ := tally.knows.mp known
    exact ⟨y, hy, same, by rw [outcome]; rfl⟩
  · rintro ⟨y, hy, same, ok⟩
    obtain ⟨value, outcome⟩ := exists_of_isOk ok
    exact ⟨value, tally.knows.mpr ⟨y, hy, same, outcome⟩⟩

theorem Tally.unknown (tally : v.Tally done s) {key : RecallKey}
    (none : ∀ y ∈ done, v.callKey y.call = key → y.outcome.isOk = false) :
    s.values.values.get? key = .none := by
  refine Option.eq_none_iff_forall_ne_some.mpr fun value known => ?_
  obtain ⟨y, hy, same, ok⟩ := (tally.known_iff key).mp ⟨value, known⟩
  exact Bool.false_ne_true ((none y hy same).symm.trans ok)

/-- Every call of a session is memoized, whatever the backend answers and
whichever calls have failed before. -/
theorem calls_memoized (v : Vantage) (cs : List Call) {earlier rest : List Served} {x : Served}
    (session : v.session {} cs = earlier ++ x :: rest) : v.Memoized earlier x := by
  obtain ⟨tally, served⟩ := tally_session v.tally_start session
  rw [List.nil_append] at tally
  -- the call is replaced by what serves it, so that the facts on one call apply
  generalize x.before = s, x.call = c at tally served
  subst served
  refine ⟨?remembered, ?afresh, fun error => ?failed, ?recalled, (tally.serve c).hits⟩
  case remembered =>
    intro y hy value same outcome
    rw [serve_call] at same
    rw [serve_before]
    exact serve_of_known (tally.knows.mpr ⟨y, hy, same, outcome⟩)
  case afresh =>
    intro none
    rw [serve_call] at none ⊢
    rw [serve_before]
    exact serve_of_unknown tally.vetted (tally.unknown none)
  case failed =>
    rw [serve_before]
    exact serve_of_failed error
  case recalled =>
    rw [serve_call, isRecalled_serve]
    exact tally.known_iff (v.callKey c)

end Vantage

/-- A backend that is busy when it is asked for the first time. -/
def Backend.busyAtFirst : Backend := fun past _ =>
  if past.isEmpty then .failed (.throttled 1) else .value "id"

/-- Whoever is asked, a gateway is called for three times. -/
def Vantage.coreThrice (v : Vantage) : List Served :=
  v.session {} (List.replicate 3
    (.value ((Published.transitGateway "Core").reference v.pathPrefix) ⟨"Network", "us-east-1"⟩))

/-- The first call fails, the second one learns the value, and the third one
finds it again. -/
theorem calls_memoized_sample :
    ∃ failed learned again : Served,
      (Topology.sample.vantage ⟨"Workload", "us-east-1"⟩ .busyAtFirst).coreThrice =
        [failed, learned] ++ again :: [] ∧
      failed.outcome.isOk = false ∧ learned.outcome.isOk = true ∧ again.isRecalled = true ∧
      (Topology.sample.vantage ⟨"Workload", "us-east-1"⟩ .busyAtFirst).Memoized
        [failed, learned] again := by
  obtain ⟨failed, learned, again, session, first, second, third⟩ :
      ∃ failed learned again : Served,
        (Topology.sample.vantage ⟨"Workload", "us-east-1"⟩ .busyAtFirst).coreThrice =
          [failed, learned] ++ again :: [] ∧
        failed.outcome.isOk = false ∧ learned.outcome.isOk = true ∧ again.isRecalled = true :=
    ⟨_, _, _, rfl, by decide +kernel, by decide +kernel, by decide +kernel⟩
  exact ⟨failed, learned, again, session, first, second, third,
    Vantage.calls_memoized _ _ session⟩

end Interlink
