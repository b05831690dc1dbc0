import Interlink.Backend.Fault
import Interlink.Backend.Memory
import Interlink.Proofs.FailFast
import Interlink.Proofs.Memoization
import Interlink.Proofs.Neighbourhood
import Mathlib.Data.List.Dedup
import Mathlib.Data.List.ModifyLast

/-!
# The counters of a plan are exact

A plan says how many questions of each sort were asked for it, how many identities were in
use, and how often a remembered value was found. The journal of the run says it too: it has
the questions, and every request with the questions that it led to (`Run.errands`). The two
agree (`lookup_counters_exact`), and a memory that serves the same questions has counted the
same.

The counts of questions and the identities are kept question by question. An identity is
kept just before a question is asked under it, so in between one is owed
(`Vantage.Asked`). Whether a request has found its value is known when it is over: it has
then led to no question at all (`Vantage.call_errand`). This needs the request to succeed,
for one that is refused may not have asked anything either. So the books balance between
requests (`Vantage.Balanced`), and nothing is said of a run that has failed.
-/

namespace Interlink

open Lookup

/-! ## Requests with their questions -/

/-- A request for a value, and the questions that it led to. -/
structure Errand where
  key : RecallKey
  exchanges : List Exchange := []
deriving DecidableEq, Repr, Inhabited

/-- The errands after one more event. What is asked is asked for the last request. -/
def Errand.log (errands : List Errand) : Event → List Errand
  | .requested key => errands ++ [⟨key, []⟩]
  | .exchanged e =>
    errands.modifyLast fun errand => { errand with exchanges := errand.exchanges ++ [e] }

namespace Run

/-- The errands of a run, in order. -/
def errands (s : Run) : List Errand := s.journal.foldl Errand.log []

variable {s : Run} {key : RecallKey} {q : Query} {a : Answer} {value : String}

@[simp] theorem errands_note : (s.note key).errands = s.errands ++ [⟨key, []⟩] := by
  simp [errands, note, Errand.log]

@[simp] theorem errands_hit : s.hit.errands = s.errands := rfl

@[simp] theorem errands_remember : (s.remember key value).errands = s.errands := rfl

theorem errands_exchange {earlier : List Errand} {es : List Exchange}
    (last : s.errands = earlier ++ [⟨key, es⟩]) :
    (s.exchange q a).errands = earlier ++ [⟨key, es ++ [⟨q, a⟩]⟩] := by
  simp only [errands] at last
  simp [errands, exchange, Errand.log, last, List.modifyLast_concat]

end Run

/-! ## Counting questions -/

/-- How many questions of a sort have been asked. Publishing is no question. -/
def CallCounts.of (c : CallCounts) : CallKind → Nat
  | .localRead => c.localReads
  | .remoteRead => c.remoteReads
  | .share => c.shareLookups
  | .provider => c.providerLookups
  | .publish => 0

theorem CallCounts.of_bump (c : CallCounts) (q : Query) (kind : CallKind) :
    (c.bump q).of kind = c.of kind + if q.subject.1 = kind then 1 else 0 := by
  cases q <;> cases kind <;> rfl

/-- What the identity of a question is kept under: what it is for, and the scope in which the
question is asked. -/
def Query.helperKey? : Query → Option HelperKey
  | .remoteValue i _ => some ⟨.parameterShare, i.account, i.region⟩
  | .attachment i _ _ => some ⟨.describeAttachments, i.account, i.region⟩
  | .localValue .. | .share .. => none

/-- The keys of the identities that questions were asked under. -/
def Run.helperKeys (s : Run) : List HelperKey := s.queries.filterMap Query.helperKey?

@[simp] theorem Run.queries_exchange (s : Run) (q : Query) (a : Answer) :
    (s.exchange q a).queries = s.queries ++ [q] := by
  simp [queries]

namespace Memo

variable {κ α : Type} [BEq κ] {m : Memo κ α} {k : κ} {a : α}

/-- The keys of a memo, in the order in which they were first used. -/
def keys (m : Memo κ α) : List κ := m.entries.map (·.1)

theorem mem_keys [LawfulBEq κ] : k ∈ m.keys ↔ (m.get? k).isSome := by
  rw [get?, keys, List.mem_map, List.lookup_isSome_iff]
  simp only [beq_iff_eq, @eq_comm _ k]

theorem keys_record_of_new (new : m.get? k = none) : (m.record k a).keys = m.keys ++ [k] := by
  simp [record, new, keys]

end Memo

/-! ## Question by question -/

namespace Vantage

variable {v : Vantage} {s : Run} {owed : List HelperKey}

/-- What has been asked is what the backend was asked, it has been counted, and the identities that
are kept are those under which questions were asked and those under which one is owed. -/
structure Asked (v : Vantage) (owed : List HelperKey) (s : Run) : Prop where
  counts : ∀ kind, s.counts.of kind = s.queries.countP (·.subject.1 = kind)
  honest : ∀ past e, past ++ [e] <+: s.exchanges → e.answer = v.backend past e.query
  /-- An identity is kept under its own scope. -/
  placed : ∀ key i, s.helpers.get? key = some i → i.scope = ⟨key.account, key.region⟩
  used : ∀ key, key ∈ s.helpers.keys ↔ key ∈ s.helperKeys ++ owed
  distinct : s.helpers.keys.Nodup

theorem asked_start (v : Vantage) : v.Asked [] {} where
  counts := by
    intro kind
    cases kind <;> rfl
  honest _ _ asked := absurd asked Run.not_asked_start
  placed _ _ found := nomatch found
  used _ := by simp [Memo.keys, Run.helperKeys, Run.queries, Run.exchanges]
  distinct := List.nodup_nil

/-- What the books of the questions depend on. -/
theorem Asked.of_eq {s' : Run} (h : v.Asked owed s) (counts : s'.counts = s.counts)
    (exchanges : s'.exchanges = s.exchanges) (helpers : s'.helpers = s.helpers) :
    v.Asked owed s' := by
  obtain ⟨counted, honest, placed, used, distinct⟩ := h
  have queries : s'.queries = s.queries := by rw [Run.queries, exchanges, Run.queries]
  constructor
  · rwa [counts, queries]
  · rwa [exchanges]
  · rwa [helpers]
  · rwa [helpers, Run.helperKeys, queries]
  · rwa [helpers]

/-- The question that was owed has been asked. -/
theorem Asked.exchange {q : Query} {a : Answer} (h : v.Asked q.helperKey?.toList s)
    (answer : v.backend s.exchanges q = a) : v.Asked [] (s.exchange q a) where
  counts := by
    intro kind
    show (s.counts.bump q).of kind = _
    rw [CallCounts.of_bump, h.counts, Run.queries_exchange, List.countP_append,
      List.countP_singleton]
    simp
  honest := by
    intro past e asked
    rcases Run.asked_exchange.mp asked with ⟨rfl, rfl⟩ | earlier
    · exact answer.symm
    · exact h.honest past e earlier
  placed := h.placed
  used := by
    intro key
    have keys : (s.exchange q a).helperKeys = s.helperKeys ++ q.helperKey?.toList := by
      rw [Run.helperKeys, Run.queries_exchange, List.filterMap_append, Run.helperKeys]
      cases key : q.helperKey? <;> simp [key]
    rw [keys, List.append_nil]
    exact h.used key
  distinct := h.distinct

theorem askFor_asked {path : String} {owner : Scope} {q : Query}
    (owes : q.helperKey?.toList = owed) :
    Meets (v.Asked owed) (v.askFor path owner q) (fun _ s => v.Asked [] s) (v.Asked []) := by
  subst owes
  exact meets_answered (fun _ _ hs answer => hs.exchange answer)
    (fun _ hs answer => hs.exchange answer) fun _ _ hs answer => hs.exchange answer

/-- A question may be asked under an identity that is kept. -/
theorem Asked.owe {key : HelperKey} (h : v.Asked [] s) (kept : key ∈ s.helpers.keys) :
    v.Asked [key] s where
  counts := h.counts
  honest := h.honest
  placed := h.placed
  used := by
    intro key'
    rw [List.mem_append, List.mem_singleton, h.used, List.append_nil]
    constructor
    · exact .inl
    · rintro (used | rfl)
      · exact used
      · simpa using (h.used key').mp kept
  distinct := h.distinct

/-- A question may be asked under a new identity, which is kept for it. -/
theorem Asked.enlist {key : HelperKey} {i : Identity} (h : v.Asked [] s)
    (new : s.helpers.get? key = none) (scope : i.scope = ⟨key.account, key.region⟩) :
    v.Asked [key] (s.enlist key i) := by
  have keys : (s.enlist key i).helpers.keys = s.helpers.keys ++ [key] :=
    Memo.keys_record_of_new new
  refine ⟨h.counts, h.honest, ?_, ?_, ?_⟩
  · intro key' i' found
    have found : (s.helpers.record key i).get? key' = some i' := found
    rw [Memo.get?_record] at found
    cases kept : s.helpers.get? key' with
    | some earlier =>
      rw [kept, Option.some_or] at found
      exact h.placed key' i' (kept.trans found)
    | none =>
      rw [kept, Option.none_or] at found
      by_cases same : key' = key
      · simp only [same, beq_self_eq_true, if_true, Option.some.injEq] at found
        rw [same, ← found, scope]
      · simp [same] at found
  · intro key'
    rw [keys, List.mem_append, List.mem_append, h.used, List.append_nil]
    rfl
  · rw [keys, ← List.concat_eq_append]
    refine List.Nodup.concat (fun there => ?_) h.distinct
    have kept := Memo.mem_keys.mp there
    rw [new] at kept
    exact nomatch kept

/-- An identity under which a question is to be asked: it is kept, or it is from now on. -/
theorem identity_asked {purpose : RolePurpose} {owner : Scope} {role : Option String} :
    Meets (v.Asked []) (v.identity purpose owner role)
      (fun i s => v.Asked [⟨purpose, owner.account, owner.region⟩] s ∧ i.scope = owner)
      (v.Asked []) := by
  refine meets_identity (fun s i _ hs _ kept => ⟨hs.owe ?_, hs.placed _ i kept⟩)
    (fun s id hs _ new => ⟨hs.enlist new rfl, rfl⟩) fun _ hs _ => hs
  exact Memo.mem_keys.mpr (Option.isSome_iff_exists.mpr ⟨i, kept⟩)

/-- A question under the identity for an owner. -/
theorem askUnder_asked {purpose : RolePurpose} {owner : Scope} {role : Option String}
    {path : String} {q : Identity → Query}
    (under : ∀ i, (q i).helperKey? = some ⟨purpose, i.account, i.region⟩) :
    Meets (v.Asked []) (v.identity purpose owner role >>= fun i => v.askFor path owner (q i))
      (fun _ s => v.Asked [] s) (v.Asked []) := by
  refine identity_asked.bind _ fun i => ?_
  have asked : Meets (v.Asked [⟨purpose, i.account, i.region⟩]) (v.askFor path owner (q i))
      (fun _ s => v.Asked [] s) (v.Asked []) := askFor_asked (by rw [under]; rfl)
  refine asked.weaken ?_ (fun _ _ hs => hs) fun _ hs => hs
  rintro s ⟨owed, rfl⟩
  exact owed

theorem fetch_asked (r : Reference) (owner : Scope) :
    Meets (v.Asked []) (v.fetch r owner) (fun _ s => v.Asked [] s) (v.Asked []) := by
  unfold fetch
  split
  · exact askFor_asked rfl
  · refine Meets.bind (fun _ s => v.Asked [] s)
      (meets_ofExcept (fun _ _ _ hs => hs) fun _ hs => hs) fun id => ?_
    refine Meets.bind (fun _ s => v.Asked [] s) (askFor_asked rfl) fun found => ?_
    cases found with
    | some value => exact meets_pure fun _ hs => hs
    | none => exact askUnder_asked fun _ => rfl
  · exact askUnder_asked fun _ => rfl
  · exact askUnder_asked fun _ => rfl

/-- Whatever a call looks up, the questions are kept in the books. -/
theorem lookUp_asked (c : Call) :
    Meets (v.Asked []) (v.lookUp c) (fun _ s => v.Asked [] s) (v.Asked []) := by
  cases c with
  | value r owner => exact fetch_asked r owner
  | attachment kind child name gatewayId owner =>
    simp only [lookUp]
    split
    · exact fetch_asked _ owner
    · exact askUnder_asked fun _ => rfl

/-! ## Request by request -/

/-- A request is under way: it is the last errand, and nothing has been remembered since it
began. -/
structure Underway (before : Run) (key : RecallKey) (s : Run) : Prop where
  values : s.values = before.values
  errand : ∃ es, s.errands = before.errands ++ [⟨key, es⟩] ∧ s.exchanges = before.exchanges ++ es

theorem underway_note (s : Run) (key : RecallKey) : Underway s key (s.note key) :=
  ⟨rfl, [], by simp, by simp⟩

/-- It goes on being under way, whatever is asked for it. -/
theorem unmoved_underway (before : Run) (key : RecallKey) : Run.Unmoved (Underway before key) where
  exchange := by
    rintro s q a ⟨values, es, last, exchanges⟩
    refine ⟨values, es ++ [⟨q, a⟩], Run.errands_exchange last, ?_⟩
    rw [Run.exchanges_exchange, exchanges, List.append_assoc]
  enlist _ _ h := ⟨h.values, h.errand⟩

/-- A call that succeeds is one errand, and its value has been found exactly if it led to no
question. -/
theorem call_errand {c : Call} {s' : Run} {value : String}
    (run : (v.call c).run s = .ok value s') :
    ∃ es, s'.errands = s.errands ++ [⟨v.callKey c, es⟩] ∧ s'.exchanges = s.exchanges ++ es ∧
      s'.values.hits = s.values.hits + if es.isEmpty then 1 else 0 := by
  rw [call_eq] at run
  rcases recalled_ok run with ⟨-, rfl⟩ | ⟨-, x, t, asked, -, rfl⟩
  · exact ⟨[], by simp, by simp, rfl⟩
  · have keeps := lookUp_keeps (v := v) (unmoved_underway s (v.callKey c)) c
    obtain ⟨values, es, last, exchanges⟩ := (keeps.ok (underway_note s _) asked).2
    have longer := ((lookUp_asks (v := v) s.exchanges c).ok (by simp) asked).2
    have some : es ≠ [] := by
      rintro rfl
      simp [exchanges] at longer
    refine ⟨es, by simpa using last, by simpa using exchanges, ?_⟩
    show t.values.hits = _
    simp [values, some]

/-- The books balance: the questions are those that were asked, each for some request, and those
requests have found their values that led to no question. -/
structure Balanced (v : Vantage) (s : Run) : Prop where
  asked : v.Asked [] s
  complete : s.errands.flatMap (·.exchanges) = s.exchanges
  hits : s.values.hits = s.errands.countP (·.exchanges.isEmpty)

theorem balanced_start (v : Vantage) : v.Balanced {} := ⟨v.asked_start, rfl, rfl⟩

/-- The books of the questions go on over a call. -/
theorem call_asked {c : Call} {s' : Run} {value : String} (h : v.Asked [] s)
    (run : (v.call c).run s = .ok value s') : v.Asked [] s' := by
  have noted : v.Asked [] (s.note (v.callKey c)) := h.of_eq rfl (by simp) rfl
  rw [call_eq] at run
  rcases recalled_ok run with ⟨-, rfl⟩ | ⟨-, x, t, asked, -, rfl⟩
  · exact noted.of_eq rfl rfl rfl
  · exact ((lookUp_asked c).ok noted asked).2.of_eq rfl rfl rfl

/-- They balance after every call that succeeds, if they did before. -/
theorem call_balanced (c : Call) :
    Yields v.Balanced (v.call c) (fun _ s => v.Balanced s) fun _ _ => True where
  ok {s s' value} hs run := by
    obtain ⟨es, errands, exchanges, hits⟩ := call_errand run
    refine ⟨call_asked hs.asked run, ?_, ?_⟩
    · rw [errands, exchanges, List.flatMap_append, hs.complete, List.flatMap_singleton]
    · rw [hits, errands, hs.hits, List.countP_append, List.countP_singleton]
  error _ _ := trivial

theorem noteRoute_balanced (key : String) :
    Yields v.Balanced (noteRoute key) (fun _ s => v.Balanced s) fun _ _ => True :=
  noteRoute_yields_of (fun _ _ hs => ⟨hs.asked.of_eq rfl rfl rfl, hs.complete, hs.hits⟩) key

end Vantage

/-- The books balance when a unit has been planned. -/
theorem Plan.build_balanced {v : Vantage} {t : Topology} :
    Yields v.Balanced (build v t) (fun _ s => v.Balanced s) fun _ _ => True :=
  build_closed (closed_yields v.Balanced _) (fun _ _ => Vantage.call_balanced (.value ..))
    (fun _ _ _ _ _ => Vantage.call_balanced (.attachment ..)) Vantage.noteRoute_balanced
    ⟨fun hs run => by cases run; exact hs, fun _ run => nomatch run⟩
    fun _ _ => yields_throw fun _ _ => trivial

/-! ## Counters -/

/-- Counters are those of a run. -/
structure LookupStats.Exact (l : LookupStats) (s : Run) : Prop where
  counts : ∀ kind, l.counts.of kind = s.queries.countP (·.subject.1 = kind)
  /-- One identity for every purpose and owner for which a question was asked under one. -/
  helpers : l.helpers = s.helperKeys.dedup.length
  /-- The requests that led to no question. -/
  cacheHits : l.cacheHits = s.errands.countP (·.exchanges.isEmpty)
  /-- Every question was asked for a request. -/
  complete : s.errands.flatMap (·.exchanges) = s.exchanges

theorem Vantage.Balanced.exact {v : Vantage} {s : Run} (h : v.Balanced s) : s.stats.Exact s where
  counts := h.asked.counts
  helpers := by
    have same : s.helpers.keys.Perm s.helperKeys.dedup := by
      refine (List.perm_ext_iff_of_nodup h.asked.distinct (List.nodup_dedup _)).mpr fun key => ?_
      rw [h.asked.used, List.append_nil, List.mem_dedup]
    calc s.helpers.size
      _ = s.helpers.keys.length := (List.length_map _).symm
      _ = s.helperKeys.dedup.length := same.length_eq
  cacheHits := h.hits
  complete := h.complete

namespace Memory

/-- The memory serves some questions, one after the other. -/
def serveAll (m : Memory) : List Query → List Exchange × Memory
  | [] => ([], m)
  | q :: rest =>
    let (a, next) := m.serve q
    let (es, last) := next.serveAll rest
    (⟨q, a⟩ :: es, last)

theorem answer_note (m : Memory) (q q' : Query) : (m.note q).answer q' = m.answer q' := by
  cases q' <;> rfl

/-- Its answers do not depend on what it has served before. -/
theorem serveAll_exchanges : ∀ (m : Memory) (qs : List Query),
    (m.serveAll qs).1 = qs.map fun q => ⟨q, m.answer q⟩
  | _, [] => rfl
  | m, q :: rest => by
    show ⟨q, m.answer q⟩ :: ((m.note q).serveAll rest).1 = _
    rw [serveAll_exchanges, List.map_cons]
    simp only [answer_note]

/-- It counts them all. -/
theorem serveAll_counts (kind : CallKind) : ∀ (m : Memory) (qs : List Query),
    (m.serveAll qs).2.counts.of kind = m.counts.of kind + qs.countP (·.subject.1 = kind)
  | _, [] => rfl
  | m, q :: rest => by
    show ((m.note q).serveAll rest).2.counts.of kind = _
    rw [serveAll_counts, List.countP_cons]
    show (m.counts.bump q).of kind + _ = _
    rw [CallCounts.of_bump]
    simp only [decide_eq_true_eq]
    omega

end Memory

/-- The counters in a plan are those of its run, whatever the backend is. A memory that is asked the
questions of the run gives the answers that the run had, and has counted as many of each sort. -/
theorem lookup_counters_exact {t : Topology} {scope : Scope} {backend : Backend} {p : Plan}
    {s : Run} (planned : t.plan scope backend = .ok p s) :
    p.metadata.lookups.Exact s ∧
    ∀ m : Memory, backend = m.backend →
      (m.serveAll s.queries).1 = s.exchanges ∧
      ∀ kind, (m.serveAll s.queries).2.counts.of kind =
        m.counts.of kind + p.metadata.lookups.counts.of kind := by
  have balanced := Plan.build_balanced.ok (t.vantage scope backend).balanced_start planned
  obtain ⟨m, s₁, graph, routes, peering, s₂, rules, -, -, -, -, -, rfl⟩ := Plan.build_ok planned
  refine ⟨balanced.exact, ?_⟩
  rintro m rfl
  constructor
  · rw [Memory.serveAll_exchanges, Run.queries, List.map_map]
    refine (List.map_congr_left fun e he => ?_).trans (List.map_id _)
    obtain ⟨past, asked⟩ := Run.asked_of_mem he
    show Exchange.mk e.query (m.answer e.query) = e
    rw [show m.answer e.query = e.answer from (balanced.asked.honest past e asked).symm]
  · intro kind
    rw [Memory.serveAll_counts]
    exact congrArg _ (balanced.asked.counts kind).symm

/-- The owner of the sample's VPC asks ten questions, five of them under one identity, and finds one
value that it remembers. The memory that it asks had served somebody before. -/
theorem lookup_counters_exact_sample :
    let memory : Memory := { Memory.samplePublished with counts := { remoteReads := 2 } }
    ∃ p s, Topology.sample.plan ⟨"Workload", "us-east-1"⟩ memory.backend = .ok p s ∧
      s.queries.countP (·.subject.1 = .localRead) = 3 ∧
      s.queries.countP (·.subject.1 = .remoteRead) = 5 ∧ s.helperKeys.dedup.length = 1 ∧
      s.errands.countP (·.exchanges.isEmpty) = 1 ∧
      (memory.serveAll s.queries).1 = s.exchanges ∧
      (memory.serveAll s.queries).2.counts.of .remoteRead = 7 := by
  intro memory
  have run : (Plan.build (Topology.sample.vantage ⟨"Workload", "us-east-1"⟩ memory.backend)
      .sample).comesTo (fun p => decide (p.metadata.lookups = ⟨⟨3, 2, 5, 0⟩, 1, 1⟩)) = true := by
    decide +kernel
  obtain ⟨p, s, planned, check⟩ := Lookup.exists_of_comesTo run
  obtain ⟨exact, served⟩ := lookup_counters_exact planned
  obtain ⟨answers, counts⟩ := served memory rfl
  have remote := counts .remoteRead
  rw [of_decide_eq_true check] at exact remote
  exact ⟨p, s, planned, (exact.counts .localRead).symm, (exact.counts .remoteRead).symm,
    exact.helpers.symm, exact.cacheHits.symm, answers, remote⟩

end Interlink
