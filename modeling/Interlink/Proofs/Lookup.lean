import Interlink.Resolver

/-!
# Laws of lookups

A lookup that fails has still asked what it asked, so a law about lookups says
what holds of the run in both cases. `Lookup.Meets` is the one form in which all
of them are stated: from a run with some property, success leaves a value and a
run that satisfy a postcondition, failure leaves a run that satisfies another
one, and either run *continues* the run before. What continues a run only adds
to it: exchanges are appended and a remembered value is never replaced. A
property that survives every addition therefore survives every lookup
(`Meets.frame`), and no stage has to be looked at for it.

`recalled_run` says in one equation what a request does to a run, and
`recalled_ok` and `recalled_error` what it has come to. Laws about requests start
from them and do not unfold the request.
-/

namespace Interlink

/-! ## Runs -/

namespace Run

/-- A value is remembered under a key. -/
def Knows (s : Run) (key : RecallKey) (value : String) : Prop :=
  s.values.values.get? key = some value

/-- The run in which a value has been requested. -/
def note (s : Run) (key : RecallKey) : Run :=
  { s with journal := s.journal ++ [Event.requested key] }

/-- The run in which a remembered value has been found. -/
def hit (s : Run) : Run :=
  { s with values := { s.values with hits := s.values.hits + 1 } }

/-- The run in which a value is remembered, unless its key has one. -/
def remember (s : Run) (key : RecallKey) (value : String) : Run :=
  { s with values := (s.values.insert key value).2 }

/-- The run in which the backend has been asked. -/
def exchange (s : Run) (q : Query) (a : Answer) : Run :=
  { s with
    counts := s.counts.bump q
    journal := s.journal ++ [Event.exchanged ⟨q, a⟩] }

/-- The run in which an identity is kept. -/
def enlist (s : Run) (key : HelperKey) (i : Identity) : Run :=
  { s with helpers := s.helpers.record key i }

@[simp] theorem exchanges_note (s : Run) (key : RecallKey) :
    (s.note key).exchanges = s.exchanges := by
  simp [note, exchanges, Event.exchange?]

@[simp] theorem exchanges_hit (s : Run) : s.hit.exchanges = s.exchanges := rfl

@[simp] theorem exchanges_remember (s : Run) (key : RecallKey) (value : String) :
    (s.remember key value).exchanges = s.exchanges := rfl

@[simp] theorem exchanges_exchange (s : Run) (q : Query) (a : Answer) :
    (s.exchange q a).exchanges = s.exchanges ++ [⟨q, a⟩] := by
  simp [exchange, exchanges, Event.exchange?]

/-- Nothing has been asked when a run starts. -/
theorem not_asked_start {past : List Exchange} {e : Exchange} :
    ¬ past ++ [e] <+: (exchanges {}) := by
  intro asked
  have := asked.length_le
  simp [exchanges] at this

/-- What was asked up to a question: the question itself, after all that came
before, or something earlier. -/
theorem asked_exchange {s : Run} {q : Query} {a : Answer} {past : List Exchange} {e : Exchange} :
    past ++ [e] <+: (s.exchange q a).exchanges ↔
      past = s.exchanges ∧ e = ⟨q, a⟩ ∨ past ++ [e] <+: s.exchanges := by
  rw [exchanges_exchange, List.prefix_concat_iff]
  refine or_congr_left ⟨fun same => ?_, fun ⟨same, last⟩ => by rw [same, last]⟩
  obtain ⟨same, last⟩ := List.append_inj' same rfl
  exact ⟨same, List.singleton_inj.mp last⟩

/-- Whatever was exchanged was asked after something. -/
theorem asked_of_mem {s : Run} {e : Exchange} (h : e ∈ s.exchanges) :
    ∃ past, past ++ [e] <+: s.exchanges := by
  obtain ⟨past, rest, split⟩ := List.append_of_mem h
  exact ⟨past, rest, by rw [split, List.append_assoc, List.singleton_append]⟩

@[simp] theorem knows_note {s : Run} {key k : RecallKey} {value : String} :
    (s.note key).Knows k value ↔ s.Knows k value := Iff.rfl

@[simp] theorem knows_hit {s : Run} {k : RecallKey} {value : String} :
    s.hit.Knows k value ↔ s.Knows k value := Iff.rfl

@[simp] theorem knows_exchange {s : Run} {q : Query} {a : Answer} {k : RecallKey}
    {value : String} : (s.exchange q a).Knows k value ↔ s.Knows k value := Iff.rfl

/-- What is remembered under a key after one more value: what was remembered, or else the value
if it is the key's. -/
theorem get?_remember (s : Run) (key k : RecallKey) (value : String) :
    (s.remember key value).values.values.get? k =
      (s.values.values.get? k).or (if k == key then some value else none) := by
  show (s.values.insert key value).2.values.get? k = _
  rw [Recall.insert, Memo.remember_eq]
  exact Memo.get?_record s.values.values key k value

/-- What is remembered after one more value: what was remembered, and the value
if its key was new. -/
theorem knows_remember {s : Run} {key k : RecallKey} {value x : String} :
    (s.remember key value).Knows k x ↔
      s.Knows k x ∨ (s.values.values.get? k = none ∧ k = key ∧ x = value) := by
  unfold Knows
  rw [get?_remember]
  cases s.values.values.get? k with
  | some first => simp
  | none =>
    by_cases h : k = key
    · subst h
      simp only [beq_self_eq_true, if_true, Option.none_or, Option.some.injEq, reduceCtorEq,
        true_and, false_or]
      exact eq_comm
    · simp [h]

/-- The answer to remembering a value is what is remembered afterwards. -/
theorem knows_remember_self (s : Run) (key : RecallKey) (value : String) :
    (s.remember key value).Knows key (s.values.insert key value).1 :=
  Memo.get?_remember s.values.values key value

/-- One run continues another: what was exchanged and remembered in the other
is exchanged and remembered in it. -/
structure Continues (s s' : Run) : Prop where
  exchanges : s.exchanges <+: s'.exchanges
  knows : ∀ {key : RecallKey} {value : String}, s.Knows key value → s'.Knows key value

namespace Continues

theorem refl (s : Run) : s.Continues s := ⟨List.prefix_refl _, id⟩

theorem trans {s s' s'' : Run} (h : s.Continues s') (h' : s'.Continues s'') : s.Continues s'' :=
  ⟨h.exchanges.trans h'.exchanges, fun hk => h'.knows (h.knows hk)⟩

theorem note (s : Run) (key : RecallKey) : s.Continues (s.note key) :=
  ⟨by simp, id⟩

theorem hit (s : Run) : s.Continues s.hit := ⟨List.prefix_refl _, id⟩

theorem remember (s : Run) (key : RecallKey) (value : String) :
    s.Continues (s.remember key value) :=
  ⟨List.prefix_refl _, fun hk => knows_remember.mpr (.inl hk)⟩

theorem exchange (s : Run) (q : Query) (a : Answer) : s.Continues (s.exchange q a) :=
  ⟨by simp, id⟩

end Continues

theorem Continues.enlist (s : Run) (key : HelperKey) (i : Identity) :
    s.Continues (s.enlist key i) :=
  ⟨List.prefix_refl _, id⟩

/-- A property of runs that every continuation keeps. -/
def Stable (K : Run → Prop) : Prop := ∀ ⦃s s' : Run⦄, s.Continues s' → K s → K s'

/-- A property of runs that no question can change: what it speaks of is not
noted when somebody is asked. -/
structure Unmoved (J : Run → Prop) : Prop where
  exchange : ∀ {s : Run} (q : Query) (a : Answer), J s → J (s.exchange q a)
  enlist : ∀ {s : Run} (key : HelperKey) (i : Identity), J s → J (s.enlist key i)

/-- A property of runs that nothing the unit looks up can change. -/
structure Indifferent (J : Run → Prop) : Prop where
  note : ∀ {s : Run} (key : RecallKey), J s → J (s.note key)
  hit : ∀ {s : Run}, J s → J s.hit
  remember : ∀ {s : Run} (key : RecallKey) (value : String), J s → J (s.remember key value)
  exchange : ∀ {s : Run} (q : Query) (a : Answer), J s → J (s.exchange q a)
  enlist : ∀ {s : Run} (key : HelperKey) (i : Identity), J s → J (s.enlist key i)

theorem Indifferent.unmoved {J : Run → Prop} (h : Indifferent J) : Unmoved J :=
  ⟨h.exchange, h.enlist⟩

theorem indifferent_true : Indifferent fun _ => True :=
  ⟨fun _ _ => trivial, fun _ => trivial, fun _ _ _ => trivial, fun _ _ _ => trivial,
    fun _ _ _ => trivial⟩

theorem stable_knows (key : RecallKey) (value : String) : Stable (·.Knows key value) :=
  fun _ _ h hk => h.knows hk

theorem stable_and {K L : Run → Prop} (hK : Stable K) (hL : Stable L) :
    Stable fun s => K s ∧ L s :=
  fun _ _ h hs => ⟨hK h hs.1, hL h hs.2⟩

end Run

/-! ## One step after another -/

section Steps

variable {ε σ α β : Type} {x : EStateM ε σ α} {f : α → EStateM ε σ β}

/-- Two steps succeed if the first one does and then the second. -/
theorem run_bind_ok {s s'' : σ} {b : β} :
    (x >>= f).run s = .ok b s'' ↔
      ∃ a s', x.run s = .ok a s' ∧ (f a).run s' = .ok b s'' := by
  show EStateM.bind x f s = .ok b s'' ↔ _
  unfold EStateM.bind EStateM.run
  cases x s with
  | ok a s' =>
    refine ⟨fun h => ⟨a, s', rfl, h⟩, ?_⟩
    rintro ⟨_, _, ⟨⟩, h⟩
    exact h
  | error e s' => simp

/-- Two steps fail with the first one or, if that succeeds, with the second. -/
theorem run_bind_error {s s'' : σ} {e : ε} :
    (x >>= f).run s = .error e s'' ↔
      x.run s = .error e s'' ∨ ∃ a s', x.run s = .ok a s' ∧ (f a).run s' = .error e s'' := by
  show EStateM.bind x f s = .error e s'' ↔ _
  unfold EStateM.bind EStateM.run
  cases x s with
  | ok a s' =>
    refine ⟨fun h => .inr ⟨a, s', rfl, h⟩, ?_⟩
    rintro (h | ⟨_, _, ⟨⟩, h⟩)
    · exact nomatch h
    · exact h
  | error e' s' => simp

theorem run_pure_ok {a b : α} {s s' : σ} :
    (pure a : EStateM ε σ α).run s = .ok b s' ↔ a = b ∧ s = s' := by
  simp [EStateM.run, pure, EStateM.pure]

theorem run_foldlM_ok_from {f : β → α → EStateM ε σ β} (inv : List α → β → Prop) :
    ∀ {done rest : List α} {b b' : β} {s s' : σ},
      (∀ before a c c' s s', a ∈ rest → inv before c → (f c a).run s = .ok c' s' →
        inv (before ++ [a]) c') →
      inv done b → (rest.foldlM f b).run s = .ok b' s' → inv (done ++ rest) b'
  | done, [], b, b', s, s', _, start, run => by
    obtain ⟨rfl, -⟩ := run_pure_ok.mp run
    rwa [List.append_nil]
  | done, a :: rest, b, b', s, s', step, start, run => by
    rw [List.foldlM_cons] at run
    obtain ⟨c, s₁, first, others⟩ := run_bind_ok.mp run
    have next := step done a b c s s₁ List.mem_cons_self start first
    have last := run_foldlM_ok_from inv (fun before a' c c' s s' ha => step before a' c c' s s'
      (List.mem_cons_of_mem _ ha)) next others
    rwa [List.append_assoc, List.singleton_append] at last

/-- What every step of a fold keeps, given the elements before it, holds of the
value that the fold ends with. -/
theorem run_foldlM_ok {f : β → α → EStateM ε σ β} (inv : List α → β → Prop) {as : List α}
    {b b' : β} {s s' : σ}
    (step : ∀ before a c c' s s', a ∈ as → inv before c → (f c a).run s = .ok c' s' →
      inv (before ++ [a]) c')
    (start : inv [] b) (run : (as.foldlM f b).run s = .ok b' s') : inv as b' :=
  run_foldlM_ok_from inv step start run

end Steps

namespace Lookup

/-- Nothing, unless it is refused. -/
def refuse (refused : Bool) (e : PlanError) : Lookup Unit := if refused then throw e else pure ()

theorem run_refuse_ok {refused : Bool} {e : PlanError} {s s' : Run} {u : Unit} :
    (refuse refused e).run s = .ok u s' ↔ refused = false ∧ s = s' := by
  cases refused with
  | false => exact run_pure_ok.trans (and_congr_left' (iff_of_true rfl rfl))
  | true =>
    constructor
    · exact fun h => nomatch h
    · exact fun h => nomatch h.1

theorem run_ofExcept_ok {α : Type} {r : Except PlanError α} {a : α} {s s' : Run} :
    (ofExcept r).run s = .ok a s' ↔ r = .ok a ∧ s = s' := by
  cases r with
  | ok b => rw [ofExcept, run_pure_ok, Except.ok.injEq]
  | error e =>
    constructor
    · exact fun h => nomatch h
    · exact fun h => nomatch h.1

end Lookup

namespace Lookup

variable {α : Type}

/-- Whether a lookup that begins a run comes to a value that passes a check. -/
def comesTo (x : Lookup α) (check : α → Bool) : Bool :=
  match x.run {} with
  | .ok a _ => check a
  | .error .. => false

theorem exists_of_comesTo {x : Lookup α} {check : α → Bool} (h : x.comesTo check = true) :
    ∃ a s, x.run {} = .ok a s ∧ check a = true := by
  unfold comesTo at h
  cases run : x.run {} with
  | ok a s => exact ⟨a, s, rfl, by simpa [run] using h⟩
  | error e s => simp [run] at h

/-- Whether a lookup that begins a run fails with an error. -/
def failsWith (x : Lookup α) (e : PlanError) : Bool :=
  match x.run {} with
  | .ok .. => false
  | .error e' _ => e' == e

theorem exists_of_failsWith {x : Lookup α} {e : PlanError} (h : x.failsWith e = true) :
    ∃ s, x.run {} = .error e s := by
  unfold failsWith at h
  cases run : x.run {} with
  | ok a s => simp [run] at h
  | error e' s =>
    rw [run] at h
    exact ⟨s, by rw [beq_iff_eq.mp h]⟩

end Lookup

/-! ## Laws -/

namespace Lookup

variable {α β : Type}

/-- What holds of a lookup from every run with `pre`: if it succeeds, `post` of
its value and its run, and if it fails, `fail` of its run. Either run continues
the one that it began with. -/
structure Meets (pre : Run → Prop) (x : Lookup α) (post : α → Run → Prop)
    (fail : Run → Prop) : Prop where
  ok : ∀ {s s' : Run} {a : α}, pre s → x.run s = .ok a s' → s.Continues s' ∧ post a s'
  error : ∀ {s s' : Run} {e : PlanError}, pre s → x.run s = .error e s' →
    s.Continues s' ∧ fail s'

variable {pre pre' fail fail' : Run → Prop} {post post' : α → Run → Prop} {x : Lookup α}

/-- A law may ask for more beforehand and promise less afterwards. -/
theorem Meets.weaken (h : Meets pre x post fail) (hpre : ∀ s, pre' s → pre s)
    (hpost : ∀ a s, post a s → post' a s) (hfail : ∀ s, fail s → fail' s) :
    Meets pre' x post' fail' where
  ok hs run := (h.ok (hpre _ hs) run).imp_right (hpost _ _)
  error hs run := (h.error (hpre _ hs) run).imp_right (hfail _)

theorem Meets.mono (h : Meets pre x post fail) (hpost : ∀ a s, post a s → post' a s) :
    Meets pre x post' fail :=
  h.weaken (fun _ hs => hs) hpost fun _ hs => hs

/-- What every continuation keeps, every lookup keeps. -/
theorem Meets.frame {K : Run → Prop} (hK : Run.Stable K) (h : Meets pre x post fail) :
    Meets (fun s => pre s ∧ K s) x (fun a s => post a s ∧ K s) (fun s => fail s ∧ K s) where
  ok hs run :=
    have h := h.ok hs.1 run
    ⟨h.1, h.2, hK h.1 hs.2⟩
  error hs run :=
    have h := h.error hs.1 run
    ⟨h.1, h.2, hK h.1 hs.2⟩

/-- What every continuation keeps may be carried along where only success
matters for it. -/
theorem Meets.and_stable {K : Run → Prop} (hK : Run.Stable K) (h : Meets pre x post fail) :
    Meets (fun s => pre s ∧ K s) x (fun a s => post a s ∧ K s) fail :=
  (h.frame hK).weaken (fun _ hs => hs) (fun _ _ hs => hs) fun _ hs => hs.1

/-- Nothing need be known of a run that has failed. -/
theorem Meets.succeeding (h : Meets pre x post fail) : Meets pre x post fun _ => True :=
  h.weaken (fun _ hs => hs) (fun _ _ hs => hs) fun _ _ => trivial

/-- What is known of every value that a lookup comes to holds afterwards as well. -/
theorem Meets.and_ok {Q : α → Prop} (h : Meets pre x post fail)
    (known : ∀ s s' a, x.run s = .ok a s' → Q a) :
    Meets pre x (fun a s => Q a ∧ post a s) fail where
  ok hs run :=
    have h := h.ok hs run
    ⟨h.1, known _ _ _ run, h.2⟩
  error hs run := h.error hs run

/-- What does not depend on the run may be assumed beforehand. -/
theorem Meets.assuming {P : Prop} (h : P → Meets pre x post fail) :
    Meets (fun s => P ∧ pre s) x post fail where
  ok hs run := (h hs.1).ok hs.2 run
  error hs run := (h hs.1).error hs.2 run

theorem meets_pure {a : α} (h : ∀ s, pre s → post a s) : Meets pre (pure a) post fail where
  ok hs run := by
    obtain ⟨rfl, rfl⟩ := run_pure_ok.mp run
    exact ⟨.refl _, h _ hs⟩
  error _ run := nomatch run

theorem meets_throw {e : PlanError} (h : ∀ s, pre s → fail s) :
    Meets pre (throw e : Lookup α) post fail where
  ok _ run := nomatch run
  error hs run := by
    cases run
    exact ⟨.refl _, h _ hs⟩

theorem meets_ofExcept {r : Except PlanError α} (hok : ∀ a, r = .ok a → ∀ s, pre s → post a s)
    (herror : ∀ s, pre s → fail s) : Meets pre (ofExcept r) post fail := by
  cases r with
  | ok a => exact meets_pure (hok a rfl)
  | error e => exact meets_throw herror

theorem meets_refuse {refused : Bool} {e : PlanError} (herror : ∀ s, pre s → fail s) :
    Meets pre (refuse refused e) (fun _ s => refused = false ∧ pre s) fail := by
  cases refused with
  | false => exact meets_pure fun s hs => ⟨rfl, hs⟩
  | true => exact meets_throw herror

theorem meets_get : Meets pre (get : Lookup Run) (fun got s => got = s ∧ pre s) fail where
  ok hs run := by
    cases run
    exact ⟨.refl _, rfl, hs⟩
  error _ run := nomatch run

theorem meets_set {next : Run} {post : PUnit → Run → Prop}
    (h : ∀ s, pre s → s.Continues next ∧ post ⟨⟩ next) : Meets pre (set next) post fail where
  ok hs run := by
    cases run
    exact h _ hs
  error _ run := nomatch run

/-- Two lookups, one after the other. -/
theorem Meets.bind {post : β → Run → Prop} {f : α → Lookup β} (mid : α → Run → Prop)
    (hx : Meets pre x mid fail) (hf : ∀ a, Meets (mid a) (f a) post fail) :
    Meets pre (x >>= f) post fail where
  ok hs run := by
    obtain ⟨a, s', first, second⟩ := run_bind_ok.mp run
    have h := hx.ok hs first
    exact ((hf a).ok h.2 second).imp_left h.1.trans
  error hs run := by
    rcases run_bind_error.mp run with first | ⟨a, s', first, second⟩
    · exact hx.error hs first
    · have h := hx.ok hs first
      exact ((hf a).error h.2 second).imp_left h.1.trans

/-- A lookup for every element of a list, each handed what the one before
answered. The invariant speaks of the elements that are done. -/
theorem meets_foldlM {f : β → α → Lookup β} (inv : List α → β → Run → Prop) :
    ∀ (done rest : List α) (b : β),
      (∀ before a after c, done ++ rest = before ++ a :: after →
        Meets (inv before c) (f c a) (inv (before ++ [a])) fail) →
      Meets (inv done b) (rest.foldlM f b) (inv (done ++ rest)) fail
  | done, [], b, _ => by
    simpa only [List.foldlM_nil, List.append_nil] using meets_pure fun _ hs => hs
  | done, a :: rest, b, step => by
    rw [List.foldlM_cons]
    refine (step done a rest b rfl).bind _ fun c => ?_
    have others := meets_foldlM inv (done ++ [a]) rest c fun before a' after c' h =>
      step before a' after c' (by simpa using h)
    simpa only [List.append_assoc, List.singleton_append] using others

/-- A lookup for every element of a list, where the invariant speaks of the answer alone. -/
theorem meets_foldlM_of_mem {f : β → α → Lookup β} {inv : β → Run → Prop} {as : List α}
    (step : ∀ a ∈ as, ∀ b, Meets (inv b) (f b a) inv fail) (b : β) :
    Meets (inv b) (as.foldlM f b) inv fail := by
  refine meets_foldlM (fun _ b s => inv b s) [] as b fun before a after c split => ?_
  apply step
  rw [← List.nil_append as, split]
  exact List.mem_append_right _ List.mem_cons_self

/-! ## Properties that are kept -/

/-- A lookup keeps a property of runs, whether it succeeds or fails. -/
def Keeps (J : Run → Prop) (x : Lookup α) : Prop := Meets J x (fun _ s => J s) J

variable {J : Run → Prop}

theorem Keeps.bind {f : α → Lookup β} (hx : Keeps J x) (hf : ∀ a, Keeps J (f a)) :
    Keeps J (x >>= f) :=
  Meets.bind _ hx hf

theorem keeps_pure {a : α} : Keeps J (pure a) := meets_pure fun _ hs => hs

theorem keeps_throw {e : PlanError} : Keeps J (throw e : Lookup α) := meets_throw fun _ hs => hs

theorem keeps_ofExcept {r : Except PlanError α} : Keeps J (ofExcept r) :=
  meets_ofExcept (fun _ _ _ hs => hs) fun _ hs => hs

end Lookup

namespace Vantage

open Lookup

variable {v : Vantage} {pre fail : Run → Prop}

/-! ## Questions -/

theorem requireId_ok {accounts : Registry} {account id : String} {scope : Scope}
    (h : requireId accounts account scope = .ok id) : accounts.accountId? account = some id := by
  unfold requireId at h
  split at h
  · next found => rw [found, Except.ok.inj h]
  · exact nomatch h

/-- What a question does to a run: whatever the backend says, it has been
exchanged. -/
theorem askFor_run (v : Vantage) (path : String) (owner : Scope) (q : Query) (s : Run) :
    (v.askFor path owner q).run s =
      match v.backend s.exchanges q with
      | .value x => .ok (some x) (s.exchange q (.value x))
      | .missing => .ok none (s.exchange q .missing)
      | .failed e => .error (.lookupFailed path owner e) (s.exchange q (.failed e)) := by
  show (match v.backend s.exchanges q with
    | .value x => (pure (some x) : Lookup (Option String))
    | .missing => pure none
    | .failed e => throw (PlanError.lookupFailed path owner e)).run
      (s.exchange q (v.backend s.exchanges q)) = _
  cases v.backend s.exchanges q <;> rfl

/-- What a question has come to: a value, or that there is none. -/
theorem askFor_ok {path : String} {owner : Scope} {q : Query} {s s' : Run}
    {found : Option String} (run : (v.askFor path owner q).run s = .ok found s') :
    (∃ x, v.backend s.exchanges q = .value x ∧ found = some x ∧ s' = s.exchange q (.value x)) ∨
      (v.backend s.exchanges q = .missing ∧ found = none ∧ s' = s.exchange q .missing) := by
  rw [askFor_run] at run
  cases answer : v.backend s.exchanges q with
  | value x =>
    rw [answer] at run
    cases run
    exact .inl ⟨x, rfl, rfl, rfl⟩
  | missing =>
    rw [answer] at run
    cases run
    exact .inr ⟨rfl, rfl, rfl⟩
  | failed e => simp [answer] at run

theorem askFor_error {path : String} {owner : Scope} {q : Query} {s s' : Run} {e : PlanError}
    (run : (v.askFor path owner q).run s = .error e s') :
    ∃ source, v.backend s.exchanges q = .failed source ∧ e = .lookupFailed path owner source ∧
      s' = s.exchange q (.failed source) := by
  rw [askFor_run] at run
  cases answer : v.backend s.exchanges q with
  | value x => simp [answer] at run
  | missing => simp [answer] at run
  | failed source =>
    rw [answer] at run
    cases run
    exact ⟨source, rfl, rfl, rfl⟩

/-- A question: what the backend answers in this run has been exchanged. -/
theorem meets_answered {path : String} {owner : Scope} {q : Query}
    {post : Option String → Run → Prop}
    (value : ∀ s x, pre s → v.backend s.exchanges q = .value x →
      post (some x) (s.exchange q (.value x)))
    (missing : ∀ s, pre s → v.backend s.exchanges q = .missing →
      post none (s.exchange q .missing))
    (failed : ∀ s e, pre s → v.backend s.exchanges q = .failed e →
      fail (s.exchange q (.failed e))) :
    Meets pre (v.askFor path owner q) post fail := by
  constructor
  · intro s s' found hs run
    rcases askFor_ok run with ⟨x, answer, rfl, rfl⟩ | ⟨answer, rfl, rfl⟩
    · exact ⟨.exchange s q _, value s x hs answer⟩
    · exact ⟨.exchange s q _, missing s hs answer⟩
  · intro s s' e hs run
    obtain ⟨source, answer, -, rfl⟩ := askFor_error run
    exact ⟨.exchange s q _, failed s source hs answer⟩

/-- A question: whatever the answer, the exchange has taken place. -/
theorem meets_askFor {path : String} {owner : Scope} {q : Query}
    {post : Option String → Run → Prop}
    (value : ∀ s x, pre s → post (some x) (s.exchange q (.value x)))
    (missing : ∀ s, pre s → post none (s.exchange q .missing))
    (failed : ∀ s e, pre s → fail (s.exchange q (.failed e))) :
    Meets pre (v.askFor path owner q) post fail :=
  meets_answered (fun s x hs _ => value s x hs) (fun s hs _ => missing s hs)
    fun s e hs _ => failed s e hs

/-- What asking for an identity does to a run: a new one is kept. -/
theorem identity_run (v : Vantage) (purpose : RolePurpose) (owner : Scope) (role : Option String)
    (s : Run) :
    (v.identity purpose owner role).run s =
      match v.accounts.accountId? owner.account with
      | none => .error (.misconfigured (.unknownAccount owner.account) v.caller) s
      | some id =>
        match s.helpers.get? ⟨purpose, owner.account, owner.region⟩ with
        | some i => .ok i s
        | none =>
          .ok ⟨owner.account, id, owner.region, role⟩
            (s.enlist ⟨purpose, owner.account, owner.region⟩
              ⟨owner.account, id, owner.region, role⟩) := by
  unfold identity requireId
  cases v.accounts.accountId? owner.account with
  | none => rfl
  | some id =>
    show (let p := s.helpers.getOrCreate ⟨purpose, owner.account, owner.region⟩ fun _ =>
        ⟨owner.account, id, owner.region, role⟩
      EStateM.Result.ok p.1 { s with helpers := p.2 }) = _
    unfold Helpers.getOrCreate
    cases found : s.helpers.get? ⟨purpose, owner.account, owner.region⟩ with
    | some i => rfl
    | none =>
      simp only [Memo.remember, found]
      rfl

/-- An identity is refused only to an account that the unit does not know. -/
theorem identity_error {purpose : RolePurpose} {owner : Scope} {role : Option String} {s s' : Run}
    {e : PlanError} (run : (v.identity purpose owner role).run s = .error e s') :
    v.accounts.accountId? owner.account = none ∧
      e = .misconfigured (.unknownAccount owner.account) v.caller ∧ s' = s := by
  rw [identity_run] at run
  cases known : v.accounts.accountId? owner.account with
  | none =>
    rw [known] at run
    cases run
    exact ⟨rfl, rfl, rfl⟩
  | some id =>
    rw [known] at run
    cases found : s.helpers.get? ⟨purpose, owner.account, owner.region⟩ <;> simp [found] at run

/-- An identity: the one that is kept, or a new one, which is kept from then
on. -/
theorem meets_identity {purpose : RolePurpose} {owner : Scope} {role : Option String}
    {post : Identity → Run → Prop}
    (kept : ∀ s i id, pre s → v.accounts.accountId? owner.account = some id →
      s.helpers.get? ⟨purpose, owner.account, owner.region⟩ = some i → post i s)
    (made : ∀ s id, pre s → v.accounts.accountId? owner.account = some id →
      s.helpers.get? ⟨purpose, owner.account, owner.region⟩ = none →
      post ⟨owner.account, id, owner.region, role⟩
        (s.enlist ⟨purpose, owner.account, owner.region⟩
          ⟨owner.account, id, owner.region, role⟩))
    (unknown : ∀ s, pre s → v.accounts.accountId? owner.account = none → fail s) :
    Meets pre (v.identity purpose owner role) post fail := by
  constructor
  · intro s s' i hs run
    rw [identity_run] at run
    cases known : v.accounts.accountId? owner.account with
    | none => simp [known] at run
    | some id =>
      rw [known] at run
      cases found : s.helpers.get? ⟨purpose, owner.account, owner.region⟩ with
      | some i' =>
        rw [found] at run
        cases run
        exact ⟨.refl s, kept s _ id hs known found⟩
      | none =>
        rw [found] at run
        cases run
        exact ⟨.enlist .., made s id hs known found⟩
  · intro s s' e hs run
    obtain ⟨none, -, rfl⟩ := identity_error run
    exact ⟨.refl _, unknown _ hs none⟩

/-! ## Requests -/

/-- What a request does to a run: a remembered value is found and counted, any
other is fetched and, if there is one, remembered. -/
theorem recalled_run (key : RecallKey) (path : String) (fetch : Lookup (Option String))
    (s : Run) :
    (recalled key path fetch).run s =
      match s.values.values.get? key with
      | some value => .ok value (s.note key).hit
      | none =>
        match fetch.run (s.note key) with
        | .error e s' => .error e s'
        | .ok none s' => .error (.notFound path key.owner) s'
        | .ok (some value) s' => .ok (s'.values.insert key value).1 (s'.remember key value) := by
  unfold recalled
  -- What is remembered is looked at in the run that has noted the request.
  show (match (s.values.get key).1 with
    | some value => (pure value : Lookup String)
    | none => _).run { s.note key with values := (s.values.get key).2 } = _
  unfold Recall.get
  cases known : s.values.values.get? key with
  | some value => rfl
  | none =>
    show EStateM.bind fetch _ (s.note key) = _
    unfold EStateM.bind EStateM.run
    cases fetch (s.note key) with
    | error e s' => rfl
    | ok found s' => cases found <;> rfl

section Recalled

variable {key : RecallKey} {path : String} {fetch : Lookup (Option String)} {s s' : Run}

/-- What a request has come to: a value that was remembered, or one that has been fetched and is
remembered from then on. -/
theorem recalled_ok {value : String} (run : (recalled key path fetch).run s = .ok value s') :
    (s.values.values.get? key = some value ∧ s' = (s.note key).hit) ∨
      s.values.values.get? key = none ∧ ∃ x t, fetch.run (s.note key) = .ok (some x) t ∧
        value = (t.values.insert key x).1 ∧ s' = t.remember key x := by
  rw [recalled_run] at run
  cases known : s.values.values.get? key with
  | some first =>
    rw [known] at run
    cases run
    exact .inl ⟨rfl, rfl⟩
  | none =>
    rw [known] at run
    cases asked : fetch.run (s.note key) with
    | error e t => simp [asked] at run
    | ok found t =>
      cases found with
      | none => simp [asked] at run
      | some x =>
        simp only [asked, EStateM.Result.ok.injEq] at run
        exact .inr ⟨rfl, x, t, rfl, run.1.symm, run.2.symm⟩

/-- A request fails where nothing is remembered: nothing has been found, or looking for it has
failed. -/
theorem recalled_error {e : PlanError} (run : (recalled key path fetch).run s = .error e s') :
    s.values.values.get? key = none ∧
      (fetch.run (s.note key) = .error e s' ∨
        fetch.run (s.note key) = .ok none s' ∧ e = .notFound path key.owner) := by
  rw [recalled_run] at run
  cases known : s.values.values.get? key with
  | some first =>
    rw [known] at run
    exact nomatch run
  | none =>
    rw [known] at run
    refine ⟨rfl, ?_⟩
    cases asked : fetch.run (s.note key) with
    | error e' t =>
      simp only [asked, EStateM.Result.error.injEq] at run
      obtain ⟨rfl, rfl⟩ := run
      exact .inl rfl
    | ok found t =>
      cases found with
      | some x => simp [asked] at run
      | none =>
        simp only [asked, EStateM.Result.error.injEq] at run
        obtain ⟨rfl, rfl⟩ := run
        exact .inr ⟨rfl, rfl⟩

/-- A request under an invariant: the value is remembered afterwards. It is fetched, and may
fail, only if nothing is remembered. -/
theorem meets_recalled_of_unknown {J : Run → Prop} {mid : Option String → Run → Prop}
    (noted : ∀ s, J s → J (s.note key)) (found : ∀ s, J s → J s.hit)
    (fetched : Meets (fun s => J s ∧ s.values.values.get? key = none) fetch mid fail)
    (remembered : ∀ s value, mid (some value) s → J (s.remember key value))
    (missing : ∀ s, mid none s → fail s) :
    Meets J (recalled key path fetch) (fun value s => J s ∧ s.Knows key value) fail := by
  have note (s : Run) : s.Continues (s.note key) := .note s key
  constructor
  · intro s s' value hs run
    rcases recalled_ok run with ⟨known, rfl⟩ | ⟨unknown, x, t, asked, rfl, rfl⟩
    · exact ⟨(note s).trans (.hit _), found _ (noted s hs), known⟩
    · obtain ⟨continues, ht⟩ := fetched.ok ⟨noted s hs, unknown⟩ asked
      exact ⟨((note s).trans continues).trans (.remember ..), remembered t x ht,
        Run.knows_remember_self t key x⟩
  · intro s s' e hs run
    obtain ⟨unknown, failed | ⟨asked, -⟩⟩ := recalled_error run
    · obtain ⟨continues, ht⟩ := fetched.error ⟨noted s hs, unknown⟩ failed
      exact ⟨(note s).trans continues, ht⟩
    · obtain ⟨continues, ht⟩ := fetched.ok ⟨noted s hs, unknown⟩ asked
      exact ⟨(note s).trans continues, missing s' ht⟩

/-- A request under an invariant that need not know whether something is remembered. -/
theorem meets_recalled {J : Run → Prop} {mid : Option String → Run → Prop}
    (noted : ∀ s, J s → J (s.note key)) (found : ∀ s, J s → J s.hit)
    (fetched : Meets J fetch mid fail)
    (remembered : ∀ s value, mid (some value) s → J (s.remember key value))
    (missing : ∀ s, mid none s → fail s) :
    Meets J (recalled key path fetch) (fun value s => J s ∧ s.Knows key value) fail :=
  meets_recalled_of_unknown noted found
    (fetched.weaken (fun _ hs => hs.1) (fun _ _ hs => hs) fun _ hs => hs) remembered missing

end Recalled

/-! ## Learning -/

section Unmoved

variable {J : Run → Prop}

theorem askFor_keeps (h : Run.Unmoved J) {path : String} {owner : Scope} {q : Query} :
    Keeps J (v.askFor path owner q) :=
  meets_askFor (fun _ _ hs => h.exchange q _ hs) (fun _ hs => h.exchange q _ hs)
    fun _ _ hs => h.exchange q _ hs

theorem identity_keeps (h : Run.Unmoved J) {purpose : RolePurpose} {owner : Scope}
    {role : Option String} : Keeps J (v.identity purpose owner role) :=
  meets_identity (fun _ _ _ hs _ _ => hs) (fun _ _ hs _ _ => h.enlist _ _ hs) fun _ hs _ => hs

theorem readRemote_keeps (h : Run.Unmoved J) {r : Reference} {owner : Scope}
    {role : Option String} : Keeps J (v.readRemote r owner role) :=
  (identity_keeps h).bind fun _ => askFor_keeps h

theorem fetch_keeps (h : Run.Unmoved J) {r : Reference} {owner : Scope} :
    Keeps J (v.fetch r owner) := by
  unfold fetch
  split
  · exact askFor_keeps h
  · refine keeps_ofExcept.bind fun id => (askFor_keeps h).bind fun found => ?_
    cases found with
    | some value => exact keeps_pure
    | none => exact readRemote_keeps h
  · exact readRemote_keeps h
  · exact readRemote_keeps h

end Unmoved

section Indifferent

variable {J : Run → Prop}

/-- What is learned is remembered, and nothing else happens that matters. -/
theorem meets_learn (h : Run.Indifferent J) {p : Published} {owner : Scope} :
    Meets J (v.learn p owner)
      (fun value s => J s ∧ s.Knows ⟨p.path v.pathPrefix, owner⟩ value) J :=
  meets_recalled (fun _ hs => h.note _ hs) (fun _ hs => h.hit hs) (fetch_keeps h.unmoved)
    (fun _ value hs => h.remember _ value hs) fun _ hs => hs

theorem keeps_learn (h : Run.Indifferent J) {p : Published} {owner : Scope} :
    Keeps J (v.learn p owner) :=
  (meets_learn h).mono fun _ _ hs => hs.1

/-- The id of an attachment is learned from the unit itself or asked for, and
nothing else happens that matters. -/
theorem resolveAttachment_keeps (h : Run.Indifferent J) {kind : AttachmentKind}
    {child name gatewayId : String} {owner : Scope} :
    Keeps J (v.resolveAttachment kind child name gatewayId owner) := by
  have recalled {key : RecallKey} {path : String} {fetch : Lookup (Option String)}
      (fetched : Keeps J fetch) : Keeps J (recalled key path fetch) :=
    (meets_recalled (fun _ hs => h.note _ hs) (fun _ hs => h.hit hs) fetched
      (fun _ value hs => h.remember _ value hs) fun _ hs => hs).mono fun _ _ hs => hs.1
  unfold resolveAttachment
  dsimp only
  split
  · exact recalled (fetch_keeps h.unmoved)
  · exact recalled ((identity_keeps h.unmoved).bind fun _ => askFor_keeps h.unmoved)

end Indifferent

end Vantage

end Interlink
