import Interlink.Proofs.EdgeRequests
import Mathlib.Data.List.Induction

/-!
# Which requests for edges are refused

A request for an edge is refused if its key is noted. The key is noted when the request is
made, before it is known whether the edge can be drawn. So a call that fails has noted the
keys of its tables up to the one at which it failed, and these stay noted, while the edges
that it had planned until then are dropped with it.

The noted keys are therefore those of the edges that calls have come to, and those that a
failing call has met (`contains_notedBy`). A request is refused for one of the two, or
because the call has asked for the table before (`refusals_exact`). A call that failed at a
table can be made again without this table if and only if all tables before it are left to
others; otherwise the first of those that are not is refused, although nobody has planned
an edge to it (`refused_without_edge`).
-/

namespace Interlink

/-! ## Failing requests -/

namespace UnitMap

variable {m : UnitMap} {external noted noted' : EdgeKeys} {kind : EdgeKind} {r : EdgeRequest}
  {rs : List EdgeRequest} {e : PlanError}

/-- An edge that cannot be drawn is a fault in the description. -/
theorem edge_misconfigured {attachment table : String}
    (h : m.edge kind attachment table = .error e) : ∃ fault, e = .misconfigured fault m.scope := by
  unfold edge at h
  split at h
  · exact ⟨_, (Except.error.inj h).symm⟩
  · split at h
    · exact ⟨_, (Except.error.inj h).symm⟩
    · exact nomatch h

/-- A request fails because its key is noted, or because the edge cannot be drawn. -/
theorem planEdge_error_iff :
    (m.planEdge external kind r.attachment r.table).run noted = .error e noted' ↔
      external.contains kind r.key = false ∧
        ((noted.contains kind r.key = true ∧ e = .repeatedEdge r.key m.scope ∧ noted' = noted) ∨
          (noted.contains kind r.key = false ∧ m.edge kind r.attachment r.table = .error e ∧
            noted' = noted.add kind r.key)) := by
  rw [planEdge_run]
  cases external.contains kind r.key with
  | true => simp
  | false =>
    cases noted.contains kind r.key with
    | true => simp [eq_comm]
    | false => cases m.edge kind r.attachment r.table <;> simp [eq_comm]

/-- Requests fail at the first one that does. -/
theorem planRequests_error_iff :
    (m.planRequests external kind rs).run noted = .error e noted' ↔
      ∃ before r after batch between, rs = before ++ r :: after ∧
        (m.planRequests external kind before).run noted = .ok batch between ∧
        (m.planEdge external kind r.attachment r.table).run between = .error e noted' := by
  constructor
  · intro failed
    induction rs generalizing noted with
    | nil => exact nomatch failed
    | cons r rest ih =>
      rcases run_bind_error.mp failed with first | ⟨one, s₁, planned, failed⟩
      · exact ⟨[], r, rest, {}, noted, rfl, rfl, first⟩
      · rcases run_bind_error.mp failed with others | ⟨_, _, -, last⟩
        · obtain ⟨before, r', after, batch, between, rfl, run, failed⟩ := ih others
          exact ⟨r :: before, r', after, one ++ batch, between, rfl,
            run_bind_ok.mpr ⟨one, s₁, planned, run_bind_ok.mpr ⟨batch, between, run, rfl⟩⟩, failed⟩
        · exact nomatch last
  · rintro ⟨before, r, after, batch, between, rfl, run, failed⟩
    rw [planRequests_append]
    exact run_bind_error.mpr (.inr ⟨batch, between, run,
      run_bind_error.mpr (.inl (run_bind_error.mpr (.inl failed)))⟩)

end UnitMap

/-! ## Calls -/

/-- A call for the edges of one sort from an attachment to some route tables. -/
structure EdgeCall where
  kind : EdgeKind
  attachment : String
  tables : List String
deriving DecidableEq, Repr, Inhabited

namespace EdgeCall

/-- The key of the edge to a route table. -/
def key (c : EdgeCall) (table : String) : String := Key.edge c.attachment table

/-- The requests for the edges to some route tables. -/
def requests (c : EdgeCall) (tables : List String) : List EdgeRequest :=
  tables.map (⟨c.attachment, ·⟩)

/-- Plan the edges of a call. -/
def plan (c : EdgeCall) (m : UnitMap) (external : EdgeKeys) : EdgePlanning EdgeBatch :=
  m.planEdges external c.kind c.attachment c.tables

/-- What a call comes to when some keys are noted. -/
def outcome (c : EdgeCall) (m : UnitMap) (external noted : EdgeKeys) :
    Except PlanError EdgeBatch :=
  match (c.plan m external).run noted with
  | .ok batch _ => .ok batch
  | .error e _ => .error e

/-- The keys that are noted after a call, whatever it has come to. -/
def notedAfter (c : EdgeCall) (m : UnitMap) (external noted : EdgeKeys) : EdgeKeys :=
  match (c.plan m external).run noted with
  | .ok _ noted' => noted'
  | .error _ noted' => noted'

variable {m : UnitMap} {external noted noted' : EdgeKeys} {c : EdgeCall} {e : PlanError}
  {before after : List String} {table : String} {batch : EdgeBatch}

theorem run_ok_iff :
    (c.plan m external).run noted = .ok batch noted' ↔
      c.outcome m external noted = .ok batch ∧ c.notedAfter m external noted = noted' := by
  unfold outcome notedAfter
  cases (c.plan m external).run noted <;> simp

theorem run_error_iff :
    (c.plan m external).run noted = .error e noted' ↔
      c.outcome m external noted = .error e ∧ c.notedAfter m external noted = noted' := by
  unfold outcome notedAfter
  cases (c.plan m external).run noted <;> simp

theorem plan_eq (c : EdgeCall) (m : UnitMap) (external : EdgeKeys) :
    c.plan m external = m.planRequests external c.kind (c.requests c.tables) :=
  UnitMap.planEdges_eq_planRequests m external c.kind c.attachment c.tables

/-- A call that asks for route tables in place of its own. -/
def withTables (c : EdgeCall) (tables : List String) : EdgeCall := { c with tables }

theorem plan_withTables (c : EdgeCall) (m : UnitMap) (external : EdgeKeys) (tables : List String) :
    (c.withTables tables).plan m external = m.planRequests external c.kind (c.requests tables) :=
  plan_eq (c.withTables tables) m external

theorem outcome_withTables_iff {tables : List String} :
    (c.withTables tables).outcome m external noted = .ok batch ↔
      ∃ between, (m.planRequests external c.kind (c.requests tables)).run noted =
        .ok batch between := by
  rw [← plan_withTables]
  constructor
  · intro planned
    exact ⟨_, run_ok_iff.mpr ⟨planned, rfl⟩⟩
  · rintro ⟨between, run⟩
    exact (run_ok_iff.mp run).1

/-- A call comes to a route table, the edge to which is not left to others: those before it are
planned. -/
structure Reaches (c : EdgeCall) (m : UnitMap) (external noted : EdgeKeys) (before : List String)
    (table : String) (after : List String) : Prop where
  tables : c.tables = before ++ table :: after
  planned : ∃ batch, (c.withTables before).outcome m external noted = .ok batch
  ours : external.contains c.kind (c.key table) = false

/-- A call fails when it has come to a route table. -/
inductive FailsAt (c : EdgeCall) (m : UnitMap) (external noted : EdgeKeys) (before : List String)
    (table : String) (after : List String) : PlanError → Prop
  /-- The edge has been asked for, by an earlier call or by this one. -/
  | repeated (reaches : c.Reaches m external noted before table after)
      (asked : noted.contains c.kind (c.key table) = true ∨ table ∈ before) :
      c.FailsAt m external noted before table after (.repeatedEdge (c.key table) m.scope)
  /-- The edge is asked for and cannot be drawn. -/
  | undrawn {e : PlanError} (reaches : c.Reaches m external noted before table after)
      (new : noted.contains c.kind (c.key table) = false) (once : table ∉ before)
      (fault : m.edge c.kind c.attachment table = .error e) :
      c.FailsAt m external noted before table after e

/-- A call meets a key when it asks for some route tables. -/
def Meets (c : EdgeCall) (external : EdgeKeys) (tables : List String) (kind : EdgeKind)
    (key : String) : Prop :=
  kind = c.kind ∧ external.contains kind key = false ∧ ∃ table ∈ tables, c.key table = key

theorem key_injective {table' : String} (same : c.key table = c.key table') : table = table' :=
  (String.append_right_inj _).mp same

/-- The keys that are noted when a call has asked for some route tables. -/
theorem contains_noteAll_requests {tables : List String} {kind : EdgeKind} {key : String} :
    (noted.noteAll c.kind (external.kept c.kind (c.requests tables))).contains kind key = true ↔
      noted.contains kind key = true ∨ c.Meets external tables kind key := by
  rw [EdgeKeys.contains_noteAll, or_comm]
  refine or_congr_right ?_
  simp only [List.mem_map, EdgeKeys.mem_kept, requests, Meets]
  constructor
  · rintro ⟨rfl, r, ⟨⟨table, asked, rfl⟩, ours⟩, rfl⟩
    exact ⟨rfl, ours, table, asked, rfl⟩
  · rintro ⟨rfl, ours, table, asked, rfl⟩
    exact ⟨rfl, _, ⟨⟨table, asked, rfl⟩, ours⟩, rfl⟩

/-- When a call has come to a route table, the keys of the tables before it are noted. -/
theorem contains_between {between : EdgeKeys}
    (planned : (m.planRequests external c.kind (c.requests before)).run noted = .ok batch between)
    {kind : EdgeKind} {key : String} :
    between.contains kind key = true ↔
      noted.contains kind key = true ∨ c.Meets external before kind key := by
  rw [(UnitMap.planRequests_ok_iff.mp planned).2.2]
  exact contains_noteAll_requests

/-- A table that a call has come to has been met before if it is one of those before it. -/
theorem meets_iff (ours : external.contains c.kind (c.key table) = false) :
    c.Meets external before c.kind (c.key table) ↔ table ∈ before := by
  constructor
  · rintro ⟨-, -, table', asked, same⟩
    rwa [← key_injective same]
  · intro asked
    exact ⟨rfl, ours, table, asked, rfl⟩

theorem contains_table {between : EdgeKeys}
    (planned : (m.planRequests external c.kind (c.requests before)).run noted = .ok batch between)
    (ours : external.contains c.kind (c.key table) = false) :
    between.contains c.kind (c.key table) = true ↔
      noted.contains c.kind (c.key table) = true ∨ table ∈ before :=
  (contains_between planned).trans (or_congr_right (meets_iff ours))

theorem meets_concat {kind : EdgeKind} {key : String}
    (ours : external.contains c.kind (c.key table) = false) :
    c.Meets external (before ++ [table]) kind key ↔
      c.Meets external before kind key ∨ kind = c.kind ∧ key = c.key table := by
  simp only [Meets, List.mem_append, List.mem_singleton, or_and_right, exists_or, exists_eq_left]
  constructor
  · rintro ⟨sort, left, earlier | same⟩
    · exact .inl ⟨sort, left, earlier⟩
    · exact .inr ⟨sort, same.symm⟩
  · rintro (⟨sort, left, earlier⟩ | ⟨rfl, rfl⟩)
    · exact ⟨sort, left, .inl earlier⟩
    · exact ⟨rfl, ours, .inr rfl⟩

/-- A call that fails does so at one of its tables. -/
theorem failsAt_of_error (failed : c.outcome m external noted = .error e) :
    ∃ before table after, c.FailsAt m external noted before table after e := by
  have run := run_error_iff.mpr ⟨failed, rfl⟩
  rw [plan_eq, UnitMap.planRequests_error_iff] at run
  obtain ⟨_, r, _, batch, between, split, planned, last⟩ := run
  obtain ⟨before, rest, tables, rfl, behind⟩ := List.map_eq_append_iff.mp split
  obtain ⟨table, after, rfl, rfl, rfl⟩ := List.map_eq_cons_iff.mp behind
  obtain ⟨ours, reason⟩ := UnitMap.planEdge_error_iff.mp last
  have reaches : c.Reaches m external noted before table after :=
    ⟨tables, ⟨batch, outcome_withTables_iff.mpr ⟨between, planned⟩⟩, ours⟩
  have here := contains_table planned ours
  refine ⟨before, table, after, ?_⟩
  rcases reason with ⟨known, rfl, -⟩ | ⟨new, fault, -⟩
  · exact .repeated reaches (here.mp known)
  · have unknown : ¬(noted.contains c.kind (c.key table) = true ∨ table ∈ before) := by
      rw [← here, Bool.not_eq_true]
      exact new
    rw [not_or, Bool.not_eq_true] at unknown
    exact .undrawn reaches unknown.1 unknown.2 fault

/-- A call fails where something stands against it, and the keys up to there are noted. -/
theorem error_of_failsAt (fails : c.FailsAt m external noted before table after e) :
    c.outcome m external noted = .error e ∧
      ∀ kind key, (c.notedAfter m external noted).contains kind key = true ↔
        noted.contains kind key = true ∨ c.Meets external (before ++ [table]) kind key := by
  have reaches : c.Reaches m external noted before table after := by
    cases fails <;> assumption
  obtain ⟨batch, planned⟩ := reaches.planned
  obtain ⟨between, planned⟩ := outcome_withTables_iff.mp planned
  have here := contains_table planned reaches.ours
  have failed {noted' : EdgeKeys}
      (last : (m.planEdge external c.kind c.attachment table).run between = .error e noted') :
      c.outcome m external noted = .error e ∧ c.notedAfter m external noted = noted' := by
    rw [← run_error_iff, plan_eq, UnitMap.planRequests_error_iff]
    refine ⟨c.requests before, ⟨c.attachment, table⟩, c.requests after, batch, between, ?_, planned,
      last⟩
    rw [reaches.tables, requests, List.map_append, List.map_cons]
    rfl
  cases fails with
  | repeated _ asked =>
    obtain ⟨outcome, same⟩ := failed (UnitMap.planEdge_error_iff (r := ⟨c.attachment, table⟩) |>.mpr
      ⟨reaches.ours, .inl ⟨here.mpr asked, rfl, rfl⟩⟩)
    refine ⟨outcome, fun kind key => ?_⟩
    -- the key of the table is among the others already
    rw [same, meets_concat reaches.ours, ← or_assoc, ← contains_between planned]
    refine (or_iff_left_of_imp ?_).symm
    rintro ⟨rfl, rfl⟩
    exact here.mpr asked
  | undrawn _ new once fault =>
    have unknown : between.contains c.kind (c.key table) = false := by
      rw [← Bool.not_eq_true, here, new]
      simpa using once
    obtain ⟨outcome, same⟩ := failed (UnitMap.planEdge_error_iff (r := ⟨c.attachment, table⟩) |>.mpr
      ⟨reaches.ours, .inr ⟨unknown, fault, rfl⟩⟩)
    refine ⟨outcome, fun kind key => ?_⟩
    rw [same, EdgeKeys.contains_add, meets_concat reaches.ours, ← or_assoc,
      ← contains_between planned, or_comm]
    rfl

/-! ### Calls made again -/

theorem outcome_ok_iff :
    c.outcome m external noted = .ok batch ↔
      m.Makes external noted c.kind (c.requests c.tables) batch.edges ∧
        batch.skipped = (external.ceded c.kind (c.requests c.tables)).map (·.skip c.kind) := by
  constructor
  · intro planned
    have run := run_ok_iff.mpr ⟨planned, rfl⟩
    rw [plan_eq, UnitMap.planRequests_ok_iff] at run
    exact ⟨run.1, run.2.1⟩
  · rintro ⟨makes, skipped⟩
    have run := UnitMap.planRequests_ok_iff.mpr ⟨makes, skipped, rfl⟩
    rw [← plan_eq] at run
    exact (run_ok_iff.mp run).1

/-- The keys that a failed call has met stand against its requests, but not against those that
come after the fault. -/
theorem makes_again (fault : m.edge c.kind c.attachment table = .error e)
    (met : ∀ kind key, noted'.contains kind key = true ↔
      noted.contains kind key = true ∨ c.Meets external (before ++ [table]) kind key)
    {edges : List Edge} :
    m.Makes external noted' c.kind (c.requests (before ++ after)) edges ↔
      (∀ t ∈ before, external.contains c.kind (c.key t) = true) ∧
        m.Makes external noted c.kind (c.requests (before ++ after)) edges := by
  constructor
  · rintro ⟨new, distinct, made⟩
    refine ⟨fun t ht => ?_, fun r hr => ?_, distinct, made⟩
    · by_contra ours
      rw [Bool.not_eq_true] at ours
      have asked : (⟨c.attachment, t⟩ : EdgeRequest) ∈
          external.kept c.kind (c.requests (before ++ after)) :=
        EdgeKeys.mem_kept.mpr ⟨List.mem_map_of_mem (List.mem_append_left _ ht), ours⟩
      have known := (met c.kind (c.key t)).mpr
        (.inr ⟨rfl, ours, t, List.mem_append_left _ ht, rfl⟩)
      exact nomatch known.symm.trans (new _ asked)
    · by_contra known
      rw [Bool.not_eq_false] at known
      exact nomatch ((met _ _).mpr (.inl known)).symm.trans (new r hr)
  · rintro ⟨left, new, distinct, made⟩
    refine ⟨fun r hr => ?_, distinct, made⟩
    by_contra known
    rw [Bool.not_eq_false, met] at known
    obtain ⟨asked, ours⟩ := EdgeKeys.mem_kept.mp hr
    obtain ⟨t, -, rfl⟩ := List.mem_map.mp asked
    rcases known with old | ⟨-, -, t', ht', same⟩
    · exact nomatch old.symm.trans (new _ hr)
    · obtain rfl := key_injective same
      rcases List.mem_append.mp ht' with earlier | last
      · exact nomatch (left _ earlier).symm.trans ours
      · -- the table with the fault is among the tables, but the edges of all of them are made
        obtain ⟨edge, -, drawn⟩ := exists_of_forall₂ made.flip hr
        rw [List.mem_singleton.mp last] at drawn
        exact nomatch fault.symm.trans drawn

/-- What it means for later calls that a call has failed because the edge to a table cannot be
drawn. -/
structure Spends (c : EdgeCall) (m : UnitMap) (external noted : EdgeKeys) (before : List String)
    (table : String) (after : List String) : Prop where
  /-- The key of this edge was not noted, -/
  new : noted.contains c.kind (c.key table) = false
  /-- and now it is. -/
  met : (c.notedAfter m external noted).contains c.kind (c.key table) = true
  /-- Without the table the call succeeds now if and only if it would have succeeded in the first
  place and all tables before this one are left to others. -/
  again : ∀ batch, (c.withTables (before ++ after)).outcome m external
      (c.notedAfter m external noted) = .ok batch ↔
    (∀ t ∈ before, external.contains c.kind (c.key t) = true) ∧
      (c.withTables (before ++ after)).outcome m external noted = .ok batch

theorem spends_of_failsAt (fails : c.FailsAt m external noted before table after e)
    (fault : m.edge c.kind c.attachment table = .error e) :
    c.Spends m external noted before table after := by
  obtain ⟨-, met⟩ := error_of_failsAt fails
  cases fails with
  | repeated =>
    obtain ⟨_, other⟩ := UnitMap.edge_misconfigured fault
    exact nomatch other
  | undrawn reaches new =>
    have here : c.Meets external (before ++ [table]) c.kind (c.key table) :=
      (meets_concat reaches.ours).mpr (.inr ⟨rfl, rfl⟩)
    refine ⟨new, (met _ _).mpr (.inr here), fun batch => ?_⟩
    rw [outcome_ok_iff, outcome_ok_iff, ← and_assoc]
    exact and_congr_left' (makes_again fault met)

/-! ### Calls one after the other -/

/-- The keys that are noted after some calls, also after those that have failed. -/
def notedBy (m : UnitMap) (external : EdgeKeys) (calls : List EdgeCall) : EdgeKeys :=
  calls.foldl (fun noted c => c.notedAfter m external noted) {}

/-- One of some calls has succeeded with an edge of a sort and a key. -/
def Returned (m : UnitMap) (external : EdgeKeys) (calls : List EdgeCall) (kind : EdgeKind)
    (key : String) : Prop :=
  ∃ earlier d, earlier ++ [d] <+: calls ∧ ∃ batch,
    d.outcome m external (notedBy m external earlier) = .ok batch ∧
      ∃ e ∈ batch.edges, e.kind = kind ∧ e.key = key

/-- One of some calls has met a key and failed. -/
def Lost (m : UnitMap) (external : EdgeKeys) (calls : List EdgeCall) (kind : EdgeKind)
    (key : String) : Prop :=
  ∃ earlier d, earlier ++ [d] <+: calls ∧ ∃ before table after e,
    d.FailsAt m external (notedBy m external earlier) before table after e ∧
      d.Meets external (before ++ [table]) kind key

theorem notedBy_concat (calls : List EdgeCall) (c : EdgeCall) :
    notedBy m external (calls ++ [c]) = c.notedAfter m external (notedBy m external calls) :=
  List.foldl_concat ..

/-- The keys that a call notes when it succeeds are those of its edges. -/
theorem contains_of_ok (planned : c.outcome m external noted = .ok batch) {kind : EdgeKind}
    {key : String} :
    (c.notedAfter m external noted).contains kind key = true ↔
      noted.contains kind key = true ∨ ∃ e ∈ batch.edges, e.kind = kind ∧ e.key = key := by
  have run := run_ok_iff.mpr ⟨planned, rfl⟩
  rw [plan_eq, UnitMap.planRequests_ok_iff] at run
  obtain ⟨⟨-, -, made⟩, -, same⟩ := run
  have named : List.Forall₂ (fun r e => e.kind = c.kind ∧ e.key = r.key)
      (external.kept c.kind (c.requests c.tables)) batch.edges := by
    refine made.imp fun r e drawn => ?_
    obtain ⟨a, id, -, -, rfl⟩ := UnitMap.edge_ok drawn
    exact ⟨rfl, rfl⟩
  rw [same, EdgeKeys.contains_noteAll, or_comm]
  refine or_congr_right ?_
  constructor
  · rintro ⟨rfl, noted⟩
    obtain ⟨r, hr, rfl⟩ := List.mem_map.mp noted
    obtain ⟨e, he, sort, keyed⟩ := exists_of_forall₂ named.flip hr
    exact ⟨e, he, sort, keyed⟩
  · rintro ⟨e, he, rfl, rfl⟩
    obtain ⟨r, hr, sort, keyed⟩ := exists_of_forall₂ named he
    exact ⟨sort, List.mem_map.mpr ⟨r, hr, keyed.symm⟩⟩

/-- What a call notes beyond what was noted: the keys of its edges if it succeeds, and the keys
that it has met if it fails. -/
theorem contains_notedAfter {kind : EdgeKind} {key : String} :
    (c.notedAfter m external noted).contains kind key = true ↔
      noted.contains kind key = true ∨
        (∃ batch, c.outcome m external noted = .ok batch ∧
          ∃ e ∈ batch.edges, e.kind = kind ∧ e.key = key) ∨
        ∃ before table after e, c.FailsAt m external noted before table after e ∧
          c.Meets external (before ++ [table]) kind key := by
  cases outcome : c.outcome m external noted with
  | ok batch =>
    have notFailed {before : List String} {table : String} {after : List String} {e : PlanError} :
        ¬c.FailsAt m external noted before table after e := by
      intro fails
      exact nomatch outcome.symm.trans (error_of_failsAt fails).1
    simp [contains_of_ok outcome, notFailed]
  | error e =>
    obtain ⟨before, table, after, fails⟩ := failsAt_of_error outcome
    constructor
    · intro there
      refine (((error_of_failsAt fails).2 kind key).mp there).imp_right fun meets => ?_
      exact .inr ⟨before, table, after, e, fails, meets⟩
    · rintro (old | ⟨_, planned, -⟩ | ⟨before, table, after, e, fails, meets⟩)
      · exact ((error_of_failsAt fails).2 kind key).mpr (.inl old)
      · exact nomatch planned
      · exact ((error_of_failsAt fails).2 kind key).mpr (.inr meets)

/-- What holds of some element of a list and those before it holds of one of the earlier elements or
of the last one. -/
theorem exists_prefix_concat {α : Type} {P : List α → α → Prop} {as : List α} {a : α} :
    (∃ earlier b, earlier ++ [b] <+: as ++ [a] ∧ P earlier b) ↔
      (∃ earlier b, earlier ++ [b] <+: as ∧ P earlier b) ∨ P as a := by
  constructor
  · rintro ⟨earlier, b, past, holds⟩
    rcases List.prefix_concat_iff.mp past with last | past
    · obtain ⟨rfl, same⟩ := List.append_inj' last rfl
      obtain rfl := List.singleton_inj.mp same
      exact .inr holds
    · exact .inl ⟨earlier, b, past, holds⟩
  · rintro (⟨earlier, b, past, holds⟩ | holds)
    · exact ⟨earlier, b, past.trans (List.prefix_append ..), holds⟩
    · exact ⟨as, a, List.prefix_rfl, holds⟩

/-- A key is noted if an edge with it has been planned, or if it has been met by a call that has
failed. -/
theorem contains_notedBy {calls : List EdgeCall} {kind : EdgeKind} {key : String} :
    (notedBy m external calls).contains kind key = true ↔
      Returned m external calls kind key ∨ Lost m external calls kind key := by
  induction calls using List.reverseRecOn with
  | nil =>
    have start : (notedBy m external []).contains kind key = false :=
      UnitMap.not_contains_start kind key
    simp [start, Returned, Lost]
  | append_singleton calls c ih =>
    unfold Returned Lost at ih ⊢
    rw [notedBy_concat, contains_notedAfter, ih, exists_prefix_concat, exists_prefix_concat]
    exact or_or_or_comm

/-- A call fails as it does when what it has asked for has been planned or met before. -/
theorem refused_iff {calls : List EdgeCall} {key : String} :
    c.outcome m external (notedBy m external calls) = .error (.repeatedEdge key m.scope) ↔
      ∃ before table after, c.Reaches m external (notedBy m external calls) before table after ∧
        c.key table = key ∧
        (Returned m external calls c.kind key ∨ table ∈ before ∨
          Lost m external calls c.kind key) := by
  have known {table : String} {before : List String} :
      ((notedBy m external calls).contains c.kind (c.key table) = true ∨ table ∈ before) ↔
        (Returned m external calls c.kind (c.key table) ∨ table ∈ before ∨
          Lost m external calls c.kind (c.key table)) := by
    rw [contains_notedBy, or_right_comm, or_assoc]
  constructor
  · intro refused
    obtain ⟨before, table, after, fails⟩ := failsAt_of_error refused
    generalize named : PlanError.repeatedEdge key m.scope = e at fails
    cases fails with
    | repeated reaches asked =>
      cases named
      exact ⟨before, table, after, reaches, rfl, known.mp asked⟩
    | undrawn _ _ _ fault =>
      obtain ⟨_, other⟩ := UnitMap.edge_misconfigured fault
      exact nomatch named.trans other
  · rintro ⟨before, table, after, reaches, rfl, asked⟩
    exact (error_of_failsAt (.repeated reaches (known.mpr asked))).1

end EdgeCall

open EdgeCall

/-- A call is refused at the first of its tables, not left to others, of which the edge has been
planned before, which the call has asked for already, or whose key has been met by a call that
failed. A call that fails has noted the keys of its tables up to the one that it fails at; and if
it fails because the edge to this one cannot be drawn, these keys are spent. -/
theorem refusals_exact (m : UnitMap) (external : EdgeKeys) (calls : List EdgeCall)
    (c : EdgeCall) :
    (∀ key,
      c.outcome m external (notedBy m external calls) = .error (.repeatedEdge key m.scope) ↔
        ∃ before table after, c.Reaches m external (notedBy m external calls) before table after ∧
          c.key table = key ∧
          (Returned m external calls c.kind key ∨ table ∈ before ∨
            Lost m external calls c.kind key)) ∧
    ∀ e, c.outcome m external (notedBy m external calls) = .error e →
      ∃ before table after, c.FailsAt m external (notedBy m external calls) before table after e ∧
        (∀ kind key, (notedBy m external (calls ++ [c])).contains kind key = true ↔
          (notedBy m external calls).contains kind key = true ∨
            c.Meets external (before ++ [table]) kind key) ∧
        (m.edge c.kind c.attachment table = .error e →
          c.Spends m external (notedBy m external calls) before table after) := by
  refine ⟨fun key => refused_iff, fun e failed => ?_⟩
  obtain ⟨before, table, after, fails⟩ := failsAt_of_error failed
  refine ⟨before, table, after, fails, ?_, spends_of_failsAt fails⟩
  rw [notedBy_concat]
  exact (error_of_failsAt fails).2

/-- A call for the edge from the VPC of the sample to a route table, and one that asks for a route
table that there is not as well. -/
def EdgeCall.sample : EdgeCall := ⟨.association, "Core_Workload_App", ["spokes"]⟩

def EdgeCall.sampleFaulty : EdgeCall := ⟨.association, "Core_Workload_App", ["spokes", "absent"]⟩

/-- The faulty call has met the first of its route tables and come to nothing. So the other call is
refused for a key that is lost, and the faulty one cannot be made again without its fault. -/
theorem refusals_exact_sample :
    ∃ m s, (UnitMap.build (Topology.sample.vantage ⟨"Workload", "us-east-1"⟩
        (.fixed fun _ => .value "id")) .sample).run {} = .ok m s ∧
      (∃ before table after,
        EdgeCall.sampleFaulty.FailsAt m {} {} before table after
          (.misconfigured (.undefinedRouteTable "Core" "absent") ⟨"Workload", "us-east-1"⟩)) ∧
      ∃ before table after,
        EdgeCall.sample.Reaches m {} (notedBy m {} [.sampleFaulty]) before table after ∧
          EdgeCall.sample.key table = "Core_Workload_App__spokes" ∧
          (Returned m {} [.sampleFaulty] .association "Core_Workload_App__spokes" ∨
            table ∈ before ∨
              Lost m {} [.sampleFaulty] .association "Core_Workload_App__spokes") := by
  have mapped : (UnitMap.build (Topology.sample.vantage ⟨"Workload", "us-east-1"⟩
      (.fixed fun _ => .value "id")) .sample).comesTo (fun m => decide
        (EdgeCall.sampleFaulty.outcome m {} (notedBy m {} []) = .error (.misconfigured
            (.undefinedRouteTable "Core" "absent") ⟨"Workload", "us-east-1"⟩) ∧
          EdgeCall.sample.outcome m {} (notedBy m {} [.sampleFaulty]) =
            .error (.repeatedEdge "Core_Workload_App__spokes" m.scope))) = true := by
    decide +kernel
  obtain ⟨m, s, run, check⟩ := Lookup.exists_of_comesTo mapped
  obtain ⟨failed, refused⟩ := of_decide_eq_true check
  obtain ⟨before, table, after, fails, -⟩ :=
    (refusals_exact m {} [] .sampleFaulty).2 _ failed
  exact ⟨m, s, run, ⟨before, table, after, fails⟩,
    ((refusals_exact m {} [.sampleFaulty] .sample).1 _).mp refused⟩

/-- The edge to the first route table is planned by neither of the two calls: the faulty one comes
to nothing, and the other one, which asks for this edge alone and comes to it where no call was
made before, is refused. -/
theorem refused_without_edge :
    ∃ m s, (UnitMap.build (Topology.sample.vantage ⟨"Workload", "us-east-1"⟩
        (.fixed fun _ => .value "id")) .sample).run {} = .ok m s ∧
      EdgeCall.sampleFaulty.outcome m {} {} =
        .error (.misconfigured (.undefinedRouteTable "Core" "absent") ⟨"Workload", "us-east-1"⟩) ∧
      EdgeCall.sample.outcome m {} (notedBy m {} [.sampleFaulty]) =
        .error (.repeatedEdge "Core_Workload_App__spokes" ⟨"Workload", "us-east-1"⟩) ∧
      ¬Returned m {} [.sampleFaulty] .association "Core_Workload_App__spokes" ∧
      ∃ batch, EdgeCall.sample.outcome m {} {} = .ok batch := by
  have mapped : (UnitMap.build (Topology.sample.vantage ⟨"Workload", "us-east-1"⟩
      (.fixed fun _ => .value "id")) .sample).comesTo (fun m => decide
        (EdgeCall.sampleFaulty.outcome m {} {} = .error (.misconfigured
            (.undefinedRouteTable "Core" "absent") ⟨"Workload", "us-east-1"⟩) ∧
          EdgeCall.sample.outcome m {} (notedBy m {} [.sampleFaulty]) =
            .error (.repeatedEdge "Core_Workload_App__spokes" ⟨"Workload", "us-east-1"⟩) ∧
          (EdgeCall.sample.outcome m {} {}).isOk)) = true := by
    decide +kernel
  obtain ⟨m, s, run, check⟩ := Lookup.exists_of_comesTo mapped
  obtain ⟨failed, refused, planned⟩ := of_decide_eq_true check
  refine ⟨m, s, run, failed, refused, ?_, ?_⟩
  · intro returned
    rcases (@exists_prefix_concat _ _ [] _).mp returned with ⟨earlier, d, past, -⟩ | ⟨_, other, -⟩
    · exact absurd (List.prefix_nil.mp past) (List.append_ne_nil_of_right_ne_nil _ (by simp))
    · exact nomatch failed.symm.trans other
  · cases outcome : EdgeCall.sample.outcome m {} {} with
    | ok batch => exact ⟨batch, rfl⟩
    | error e =>
      rw [outcome] at planned
      exact nomatch planned

end Interlink
