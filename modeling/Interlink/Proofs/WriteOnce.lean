import Interlink.Proofs.FirstEntries
import Interlink.Recall

/-!
# What a unit remembers is written once

Both memos of a unit are maps in which a key keeps its first value. This is said of histories, in
which requests of all sorts for all sorts of keys follow each other. A memo is at any time that of
everything it was ever given (`Memo.ofRecords`), and is so after one more record
(`Memo.record_ofRecords`). Therefore what is answered can be read off the history: for a value it
is the first one that was stored under the key, and for an identity the one that was made in the
first use of the key.

Making an identity may have effects, and it is said too when they take place. `getOrCreate` cannot
show it, for it has nothing but the identity in the end. So identities are also made in a world
that this may change (`Helpers.getOrCreateIn`), and the world shows when it was done.
-/

namespace Interlink

/-! ## Histories -/

/-- Inputs with what was answered to them, and the state that this has ended in. -/
structure Transcript (ι ω σ : Type) where
  log : List (ι × ω) := []
  state : σ

section Transcript

variable {ι ω σ : Type} {handle : σ → ι → ω × σ} {s : σ}

/-- One more input is handled. -/
def Transcript.add (handle : σ → ι → ω × σ) (t : Transcript ι ω σ) (i : ι) : Transcript ι ω σ where
  log := t.log ++ [(i, (handle t.state i).1)]
  state := (handle t.state i).2

/-- Inputs are handled in order. -/
def transcript (handle : σ → ι → ω × σ) (s : σ) (inputs : List ι) : Transcript ι ω σ :=
  inputs.foldl (Transcript.add handle) { state := s }

theorem transcript_concat (past : List ι) (i : ι) :
    transcript handle s (past ++ [i]) = (transcript handle s past).add handle i := by
  rw [transcript, List.foldl_append]
  rfl

theorem inputs_transcript (inputs : List ι) :
    (transcript handle s inputs).log.map (·.1) = inputs := by
  induction inputs using List.reverseRecOn with
  | nil => rfl
  | append_singleton past i ih =>
    rw [transcript_concat, Transcript.add, List.map_append, ih, List.map_singleton]

/-- What is answered after each history makes up the log. -/
theorem log_transcript {answer : List ι → ι → ω}
    (answers : ∀ past i, (handle (transcript handle s past).state i).1 = answer past i)
    (inputs : List ι) : (transcript handle s inputs).log =
      inputs.mapIdx fun n i => (i, answer (inputs.take n) i) := by
  induction inputs using List.reverseRecOn with
  | nil => rfl
  | append_singleton past i ih =>
    rw [transcript_concat, Transcript.add, List.mapIdx_concat, ih, answers, List.take_left]
    -- the past of an earlier input is that of a shorter history
    refine congrArg (· ++ _) (List.mapIdx_eq_mapIdx_iff.mpr fun n before => ?_)
    rw [List.take_append_of_le_length (Nat.le_of_lt before)]

/-- If what is answered to some inputs depends on no others, then they are answered as if there
were no others. -/
theorem log_filter {p : ι → Bool}
    (own : ∀ past i, p i = true → (handle (transcript handle s (past.filter p)).state i).1 =
      (handle (transcript handle s past).state i).1) (inputs : List ι) :
    (transcript handle s inputs).log.filter (fun e => p e.1) =
      (transcript handle s (inputs.filter p)).log := by
  induction inputs using List.reverseRecOn with
  | nil => rfl
  | append_singleton past i ih =>
    rw [transcript_concat, Transcript.add, List.filter_append, List.filter_append, ih,
      List.filter_singleton, List.filter_singleton]
    cases mine : p i with
    | true =>
      rw [cond_true, cond_true, transcript_concat, Transcript.add, own past i mine]
    | false =>
      rw [cond_false, cond_false, List.append_nil, List.append_nil]

end Transcript

/-! ## Memos -/

theorem lookup_map {α κ β : Type} [DecidableEq κ] {f : α → κ} {g : α → β} {k : κ} (l : List α) :
    (l.map fun a => (f a, g a)).lookup k = (l.find? (f · == k)).map g := by
  induction l with
  | nil => rfl
  | cons a l ih =>
    rw [List.map_cons, List.lookup_cons, List.find?_cons, ih, BEq.comm]
    cases f a == k <;> rfl

namespace Memo

variable {κ α : Type} [DecidableEq κ] {ps : List (κ × α)} {k : κ} {a : α}

/-- The memo of some records, the first one of each key. -/
def ofRecords (ps : List (κ × α)) : Memo κ α := ⟨firsts (·.1) ps⟩

theorem get?_ofRecords : (ofRecords ps).get? k = ps.lookup k := by
  have searched (l : List (κ × α)) : l.lookup k = (l.find? (·.1 == k)).map (·.2) := by
    rw [← lookup_map l, List.map_id']
  rw [get?, ofRecords, searched, find?_firsts, searched]

/-- One more record counts if its key has none. -/
theorem record_ofRecords : (ofRecords ps).record k a = ofRecords (ps ++ [(k, a)]) := by
  have known : (ps.lookup k).isSome = true ↔ k ∈ ps.map (·.1) := by
    rw [List.lookup_isSome_iff, List.mem_map]
    simp only [beq_iff_eq, @eq_comm _ k]
  rw [record, get?_ofRecords, ofRecords, ofRecords, firsts_concat]
  cases found : ps.lookup k with
  | some first =>
    rw [found] at known
    rw [if_pos (known.mp rfl)]
  | none =>
    rw [found] at known
    rw [if_neg fun there => Bool.false_ne_true (known.mpr there)]

theorem size_ofRecords : (ofRecords ps).size = (ps.map (·.1)).toFinset.card :=
  length_firsts

end Memo

/-! ## Values -/

/-- Whether two keys have the same parts. -/
def RecallKey.agrees (a b : RecallKey) : Bool :=
  a.path == b.path && a.owner.account == b.owner.account && a.owner.region == b.owner.region

theorem RecallKey.agrees_iff {a b : RecallKey} : a.agrees b = true ↔ a = b := by
  obtain ⟨path, account, region⟩ := a
  obtain ⟨path', account', region'⟩ := b
  simp [agrees, and_assoc]

namespace Recall

/-- What is asked of a recall. -/
inductive Access
  | get (key : RecallKey)
  | insert (key : RecallKey) (value : String)
deriving DecidableEq, Repr, Inhabited

namespace Access

def key : Access → RecallKey
  | .get k => k
  | .insert k _ => k

def isGet : Access → Bool
  | .get _ => true
  | .insert .. => false

/-- What is to be stored. -/
def record? : Access → Option (RecallKey × String)
  | .get _ => none
  | .insert k value => some (k, value)

/-- All that was to be stored, in order. -/
def records (past : List Access) : List (RecallKey × String) := past.filterMap record?

theorem records_concat (past : List Access) (x : Access) :
    records (past ++ [x]) = records past ++ x.record?.toList := by
  cases x <;> simp [records, record?]

/-- The first value that was stored under the key, where an insertion comes with one itself. -/
def answer (past : List Access) : Access → Option String
  | .get k => (records past).lookup k
  | .insert k value => some (((records past).lookup k).getD value)

/-- What was stored under a key has to do with the accesses to the key. -/
theorem answer_filter {past : List Access} {x : Access} {k : RecallKey}
    (mine : x.key.agrees k = true) :
    answer (past.filter (·.key.agrees k)) x = answer past x := by
  obtain rfl := RecallKey.agrees_iff.mp mine
  have stored : (records (past.filter (·.key.agrees x.key))).lookup x.key =
      (records past).lookup x.key := by
    induction past with
    | nil => rfl
    | cons y past ih =>
      rw [List.filter_cons]
      cases y with
      | get k => split <;> exact ih
      | insert k value =>
        show _ = ((k, value) :: records past).lookup x.key
        rw [List.lookup_cons, ← ih]
        split
        · exact List.lookup_cons
        · next other =>
          have other : x.key ≠ k := fun same => other (RecallKey.agrees_iff.mpr same.symm)
          rw [beq_false_of_ne other]
  cases x with
  | get k => exact stored
  | insert k value => exact congrArg (fun first => some (first.getD value)) stored

end Access

def handle (r : Recall) : Access → Option String × Recall
  | .get k => r.get k
  | .insert k value => let (first, r) := r.insert k value; (some first, r)

/-- A recall has been a write-once map. -/
structure WritesOnce (accesses : List Access) (t : Transcript Access (Option String) Recall) :
    Prop where
  answered : t.log = accesses.mapIdx fun n x => (x, x.answer (accesses.take n))
  /-- The size is the number of keys under which something was stored. -/
  size : t.state.size = ((Access.records accesses).map (·.1)).toFinset.card
  /-- The hits are the lookups that returned a value. -/
  hits : t.state.hits = t.log.countP fun e => e.1.isGet && e.2.isSome
  /-- The accesses to a key are answered as if there were no others. -/
  apart : ∀ key : RecallKey, t.log.filter (·.1.key.agrees key) =
    (transcript handle {} (accesses.filter (·.key.agrees key))).log

theorem get_eq (r : Recall) (k : RecallKey) : r.get k = (r.values.get? k,
    { r with hits := r.hits + if (r.values.get? k).isSome then 1 else 0 }) := by
  unfold get
  cases r.values.get? k <;> rfl

/-- How an access is handled by a recall in which others have stored something. -/
theorem handle_ofRecords (past : List Access) (hits : Nat) (x : Access) :
    handle ⟨.ofRecords (Access.records past), hits⟩ x = (x.answer past,
      { values := .ofRecords (Access.records (past ++ [x]))
        hits := hits + if x.isGet && (x.answer past).isSome then 1 else 0 }) := by
  rw [Access.records_concat]
  cases x with
  | get k =>
    rw [handle, get_eq, Memo.get?_ofRecords, Access.record?, Option.toList_none, List.append_nil]
    rfl
  | insert k value =>
    rw [handle, insert, Memo.remember_eq, Memo.get?_ofRecords, Memo.record_ofRecords]
    rfl

/-- A history leaves what it stores, and the number of its hits. -/
theorem state_transcript (past : List Access) : (transcript handle {} past).state =
    { values := .ofRecords (Access.records past)
      hits := (transcript handle {} past).log.countP fun e => e.1.isGet && e.2.isSome } := by
  induction past using List.reverseRecOn with
  | nil => rfl
  | append_singleton past x ih =>
    rw [transcript_concat, Transcript.add, ih, handle_ofRecords, List.countP_append,
      List.countP_singleton]

theorem handle_transcript (past : List Access) (x : Access) :
    ((transcript handle {} past).state.handle x).1 = x.answer past := by
  rw [state_transcript, handle_ofRecords]

theorem writesOnce (accesses : List Access) :
    WritesOnce accesses (transcript handle {} accesses) where
  answered := log_transcript handle_transcript accesses
  size := by rw [state_transcript, size, Memo.size_ofRecords]
  hits := by rw [state_transcript]
  apart key := by
    refine log_filter (p := fun x => x.key.agrees key) (fun past x mine => ?_) accesses
    rw [handle_transcript, handle_transcript, Access.answer_filter mine]

/-- The value that comes second is not stored, and not to be found in another region. -/
example :
    let key : RecallKey := ⟨"/p", ⟨"A", "us-east-1"⟩⟩
    let elsewhere : RecallKey := ⟨"/p", ⟨"A", "us-west-2"⟩⟩
    let t := transcript handle {} [.insert key "one", .insert key "two", .get key, .get elsewhere]
    t.log.map (·.2) = [some "one", some "one", some "one", none] ∧ t.state.size = 1 ∧
      t.state.hits = 1 := by decide

end Recall

/-! ## Identities -/

/-- Whether two keys have the same parts. -/
def HelperKey.agrees (a b : HelperKey) : Bool :=
  a.purpose == b.purpose && a.account == b.account && a.region == b.region

theorem HelperKey.agrees_iff {a b : HelperKey} : a.agrees b = true ↔ a = b := by
  obtain ⟨purpose, account, region⟩ := a
  obtain ⟨purpose', account', region'⟩ := b
  simp [agrees, and_assoc]

namespace Helpers

/-- A use of an identity: its key, and how the identity would be made. -/
structure Use (γ : Type) where
  key : HelperKey
  create : γ

theorem getOrCreate_eq (h : Helpers) (k : HelperKey) (create : Unit → Identity) :
    h.getOrCreate k create = ((h.get? k).getD (create ()), h.record k (create ())) := by
  rw [getOrCreate]
  cases found : h.get? k with
  | some identity => rw [Memo.record_of_known found, Option.getD_some]
  | none => rw [Memo.remember_eq, found]

section Plain

variable {past : List (Use (Unit → Identity))} {u : Use (Unit → Identity)}

/-- What uses would make, in order. -/
def records (past : List (Use (Unit → Identity))) : List (HelperKey × Identity) :=
  past.map fun u => (u.key, u.create ())

/-- What is made in the first use of the key, which is the use itself if there is none before. -/
def answer (past : List (Use (Unit → Identity))) (u : Use (Unit → Identity)) : Identity :=
  ((past.find? (·.key == u.key)).getD u).create ()

def handle (h : Helpers) (u : Use (Unit → Identity)) : Identity × Helpers :=
  h.getOrCreate u.key u.create

/-- Helpers have been a write-once map. -/
structure WritesOnce (uses : List (Use (Unit → Identity)))
    (t : Transcript (Use (Unit → Identity)) Identity Helpers) : Prop where
  answered : t.log = uses.mapIdx fun n u => (u, answer (uses.take n) u)
  /-- The size is the number of keys that were used. -/
  size : t.state.size = (uses.map (·.key)).toFinset.card
  /-- The uses of a key are answered as if there were no others. -/
  apart : ∀ key : HelperKey, t.log.filter (·.1.key.agrees key) =
    (transcript handle {} (uses.filter (·.key.agrees key))).log

/-- How a use is handled by helpers that others have had made. -/
theorem handle_ofRecords : handle (.ofRecords (records past)) u =
    (answer past u, .ofRecords (records (past ++ [u]))) := by
  rw [handle, getOrCreate_eq, Memo.get?_ofRecords, Memo.record_ofRecords, records, lookup_map,
    answer, records, List.map_append]
  cases past.find? (·.key == u.key) <;> rfl

theorem state_transcript (past : List (Use (Unit → Identity))) :
    (transcript handle {} past).state = .ofRecords (records past) := by
  induction past using List.reverseRecOn with
  | nil => rfl
  | append_singleton past u ih => rw [transcript_concat, Transcript.add, ih, handle_ofRecords]

theorem handle_transcript (past : List (Use (Unit → Identity))) (u : Use (Unit → Identity)) :
    (handle (transcript handle {} past).state u).1 = answer past u := by
  rw [state_transcript, handle_ofRecords]

theorem writesOnce (uses : List (Use (Unit → Identity))) :
    WritesOnce uses (transcript handle {} uses) where
  answered := log_transcript handle_transcript uses
  size := by
    rw [state_transcript, Memo.size_ofRecords, records, List.map_map]
    rfl
  apart key := by
    refine log_filter (p := fun u => u.key.agrees key) (fun past u mine => ?_) uses
    obtain rfl := HelperKey.agrees_iff.mp mine
    rw [handle_transcript, handle_transcript, answer, answer, List.find?_filter]
    simp only [HelperKey.agrees_iff, beq_iff_eq, and_self]
    rfl

end Plain

section World

variable {W : Type}

/-- The identity of a key, in a world that changes if the identity has to be made. -/
def getOrCreateIn (h : Helpers) (k : HelperKey) (create : W → Identity × W) (w : W) :
    Identity × Helpers × W :=
  match h.get? k with
  | some identity => (identity, h, w)
  | none => ((create w).1, h.record k (create w).1, (create w).2)

def handleIn (s : Helpers × W) (u : Use (W → Identity × W)) : Identity × Helpers × W :=
  s.1.getOrCreateIn u.key u.create s.2

/-- After other uses, an identity is made if and only if none of them was of its key. -/
structure MakesOnce (past : List (Use (W → Identity × W))) (u : Use (W → Identity × W))
    (t : Transcript (Use (W → Identity × W)) Identity (Helpers × W)) : Prop where
  complete : t.log.map (·.1) = past
  /-- The size is the number of keys that were used. -/
  size : t.state.1.size = (past.map (·.key)).toFinset.card
  /-- If the key was used before, the answer is what the first use of it was answered with, and
  the world stays as it is. Otherwise the identity is made. -/
  served : t.state.1.getOrCreateIn u.key u.create t.state.2 =
    match t.log.find? (·.1.key == u.key) with
    | some (_, identity) => (identity, t.state)
    | none =>
      ((u.create t.state.2).1, t.state.1.record u.key (u.create t.state.2).1,
        (u.create t.state.2).2)
  /-- But for the world, this is `getOrCreate` of what would be made. -/
  plain : t.state.1.getOrCreate u.key (fun _ => (u.create t.state.2).1) =
    ((t.state.1.getOrCreateIn u.key u.create t.state.2).1,
      (t.state.1.getOrCreateIn u.key u.create t.state.2).2.1)

/-- But for the world, it is `getOrCreate` of what would be made. -/
theorem getOrCreate_of_world (h : Helpers) (k : HelperKey) (create : W → Identity × W) (w : W) :
    h.getOrCreate k (fun _ => (create w).1) =
      ((h.getOrCreateIn k create w).1, (h.getOrCreateIn k create w).2.1) := by
  rw [getOrCreate_eq, getOrCreateIn]
  cases found : h.get? k with
  | some identity => rw [Memo.record_of_known found, Option.getD_some]
  | none => rfl

/-- What uses were answered with, in order. -/
def logged (log : List (Use (W → Identity × W) × Identity)) : List (HelperKey × Identity) :=
  log.map fun e => (e.1.key, e.2)

/-- The answer is kept, unless it was kept before. -/
theorem getOrCreateIn_kept (h : Helpers) (k : HelperKey) (create : W → Identity × W) (w : W) :
    (h.getOrCreateIn k create w).2.1 = h.record k (h.getOrCreateIn k create w).1 := by
  rw [getOrCreateIn]
  cases found : h.get? k with
  | some identity => exact (Memo.record_of_known found _).symm
  | none => rfl

/-- What is kept after a history is what its uses were answered with. -/
theorem kept_transcript (past : List (Use (W → Identity × W))) (w : W) :
    (transcript handleIn ({}, w) past).state.1 =
      .ofRecords (logged (transcript handleIn ({}, w) past).log) := by
  induction past using List.reverseRecOn with
  | nil => rfl
  | append_singleton past u ih =>
    -- what the use is answered with is one more record
    rw [transcript_concat, Transcript.add, handleIn, getOrCreateIn_kept, logged, List.map_append,
      List.map_singleton, ← Memo.record_ofRecords, ← logged, ← ih]

theorem makesOnce (past : List (Use (W → Identity × W))) (u : Use (W → Identity × W)) (w : W) :
    MakesOnce past u (transcript handleIn ({}, w) past) where
  complete := inputs_transcript past
  size := by
    have inputs : (transcript handleIn ({}, w) past).log.map (·.1) = past := inputs_transcript past
    have keys : (logged (transcript handleIn ({}, w) past).log).map (·.1) = past.map (·.key) := by
      conv_rhs => rw [← inputs]
      rw [logged, List.map_map, List.map_map]
      rfl
    rw [kept_transcript, Memo.size_ofRecords, keys]
  served := by
    have kept : (transcript handleIn ({}, w) past).state.1.get? u.key =
        ((transcript handleIn ({}, w) past).log.find? (·.1.key == u.key)).map (·.2) := by
      rw [kept_transcript, Memo.get?_ofRecords, logged, lookup_map]
    rw [getOrCreateIn, kept]
    cases (transcript handleIn ({}, w) past).log.find? (·.1.key == u.key) <;> rfl
  plain := getOrCreate_of_world _ _ _ _

/-- Three uses of a key make one identity. -/
example :
    let key : HelperKey := ⟨.parameterShare, "B", "us-east-1"⟩
    let create (made : Nat) : Identity × Nat :=
      (⟨"B", "222222222222", "us-east-1", none⟩, made + 1)
    let t := transcript handleIn ({}, 0) [⟨key, create⟩, ⟨key, create⟩, ⟨key, create⟩]
    t.state.2 = 1 ∧ t.state.1.size = 1 := by decide

end World

end Helpers

/-! ## Both memos -/

/-- Whatever is asked of them, the two memos are write-once maps, and an identity is made in the
first use of its key and in no later one. -/
theorem memos_write_once :
    (∀ accesses, Recall.WritesOnce accesses (transcript Recall.handle {} accesses)) ∧
    (∀ uses, Helpers.WritesOnce uses (transcript Helpers.handle {} uses)) ∧
    ∀ {W : Type} (past : List (Helpers.Use (W → Identity × W))) (u : Helpers.Use _) (w : W),
      Helpers.MakesOnce past u (transcript Helpers.handleIn ({}, w) past) :=
  ⟨Recall.writesOnce, Helpers.writesOnce, Helpers.makesOnce⟩

end Interlink
