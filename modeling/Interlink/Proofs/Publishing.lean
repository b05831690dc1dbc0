import Interlink.Proofs.Agreement
import Interlink.Proofs.Consistency
import Interlink.Proofs.ConnectionKeys
import Interlink.Plan.Publish

/-!
# What publishing writes

A plan says what is to be published, and the operator says what was created. What is
created of the plan is due, in the order of the plan, and nothing else is. A publisher is
called for one due value after the other: it takes them all (`Publishing.Completes`), or
the first one that it refuses is the last call (`Publishing.StopsAt`).

`publishing_reads_back` says so of every publisher, and of a memory what can be read from
it afterwards: the ids, where the plan publishes them, and what was there before, anywhere
else. A later write could replace an earlier one, for the texts of different scopes may be
the same. But whatever is written to one path is the id of one connection, for the path of
a connection gives back its key.
-/

namespace Interlink

/-! ## One call after the other -/

/-- The publisher takes the values one after the other. -/
def Publisher.Takes (publisher : Publisher) (calls : List PublishCall) : Prop :=
  ∀ before c after, calls = before ++ c :: after → publisher before c = .ok ()

theorem Publisher.takes_nil (publisher : Publisher) : publisher.Takes [] := by
  intro before c after parts
  exact absurd parts.symm (by simp)

theorem Publisher.Takes.append {publisher : Publisher} {calls : List PublishCall}
    {c : PublishCall} (taken : publisher.Takes calls) (next : publisher calls c = .ok ()) :
    publisher.Takes (calls ++ [c]) := by
  intro before c' after parts
  rcases List.eq_nil_or_concat after with rfl | ⟨others, last, rfl⟩
  · obtain ⟨rfl, same⟩ := List.append_inj' parts rfl
    cases same
    exact next
  · have parts : calls ++ [c] = (before ++ c' :: others) ++ [last] := by
      rw [parts, List.concat_eq_append, List.append_assoc, List.cons_append]
    exact taken _ _ _ (List.append_inj' parts rfl).1

namespace Publishing

/-- A run goes on from what was taken to the end, or to the first value that is refused. -/
theorem run_cases (publisher : Publisher) :
    ∀ (stored cs : List PublishCall), publisher.Takes stored →
      (run publisher stored cs = ⟨stored ++ cs, none⟩ ∧ publisher.Takes (stored ++ cs)) ∨
      ∃ before c after e, cs = before ++ c :: after ∧
        run publisher stored cs = ⟨stored ++ before, some (c, e)⟩ ∧
        publisher.Takes (stored ++ before) ∧ publisher (stored ++ before) c = .error e
  | stored, [], taken => by
    rw [List.append_nil]
    exact .inl ⟨rfl, taken⟩
  | stored, c :: rest, taken => by
    cases one : publisher stored c with
    | error e => exact .inr ⟨[], c, rest, e, rfl, by simp [run, one], by simpa, by simpa⟩
    | ok _ =>
      have step : run publisher stored (c :: rest) = run publisher (stored ++ [c]) rest := by
        simp only [run, one]
      rw [step]
      rcases run_cases publisher (stored ++ [c]) rest (taken.append one) with
        ⟨all, takes⟩ | ⟨before, c', after, e, rfl, stopped, takes, refused⟩
      · rw [List.append_assoc, List.singleton_append] at all takes
        exact .inl ⟨all, takes⟩
      · rw [List.append_assoc, List.singleton_append] at stopped takes refused
        exact .inr ⟨c :: before, c', after, e, rfl, stopped, takes, refused⟩

end Publishing

/-! ## What is due -/

/-- A call publishes the id that was created for a publication. -/
structure Publication.Calls (created : SortedMap String) (q : Publication) (c : PublishCall) :
    Prop where
  scope : c.scope = q.scope
  path : c.path = q.path
  value : created.get? q.resourceKey = some c.value

/-- What a plan publishes of the resources that were created. -/
def Plan.due (p : Plan) (created : SortedMap String) : List Publication :=
  p.peering.publications.filter (created.contains ·.resourceKey)

namespace Plan

variable {p : Plan} {created : SortedMap String} {publisher : Publisher}

theorem mem_due {q : Publication} :
    q ∈ p.due created ↔ q ∈ p.peering.publications ∧ created.contains q.resourceKey :=
  List.mem_filter

/-- The calls are those for what is due, in its order. -/
theorem publishCalls_due (p : Plan) (created : SortedMap String) :
    List.Forall₂ (Publication.Calls created) (p.due created) (p.publishCalls created) := by
  unfold due publishCalls
  induction p.peering.publications with
  | nil => exact .nil
  | cons q rest ih =>
    cases got : created.get? q.resourceKey with
    | none => simpa [List.filter_cons, SortedMap.contains, got] using ih
    | some id => simpa [List.filter_cons, SortedMap.contains, got] using ⟨⟨rfl, rfl, got⟩, ih⟩

end Plan

namespace Publishing

variable {publisher : Publisher} {created : SortedMap String}

/-- All that was due was published. -/
structure Completes (publisher : Publisher) (created : SortedMap String) (due : List Publication)
    (g : Publishing) : Prop where
  /-- One value for each publication, in their order. -/
  stored : List.Forall₂ (Publication.Calls created) due g.stored
  taken : publisher.Takes g.stored
  calls : g.calls = g.stored
  result : g.result = .ok due.length

/-- What came before a publication was published, its own value was refused, and none was tried
after it. -/
structure StopsAt (publisher : Publisher) (created : SortedMap String) (before : List Publication)
    (q : Publication) (e : LookupError) (g : Publishing) : Prop where
  /-- One value for each publication before, in their order. -/
  stored : List.Forall₂ (Publication.Calls created) before g.stored
  taken : publisher.Takes g.stored
  refused : ∃ c, q.Calls created c ∧ publisher g.stored c = .error e ∧ g.calls = g.stored ++ [c]
  result : g.result = .error (.lookupFailed q.path q.scope e)

end Publishing

namespace Plan

variable {p : Plan} {created : SortedMap String} {publisher : Publisher}

/-- What is due is published, up to the first value that is refused. -/
theorem publish_due (p : Plan) (created : SortedMap String) (publisher : Publisher) :
    (p.publish created publisher).Completes publisher created (p.due created) ∨
      ∃ before q after e, p.due created = before ++ q :: after ∧
        (p.publish created publisher).StopsAt publisher created before q e := by
  have each := p.publishCalls_due created
  rcases Publishing.run_cases publisher [] (p.publishCalls created) publisher.takes_nil with
    ⟨all, taken⟩ | ⟨before, c, after, e, parts, stopped, taken, refused⟩
  · refine .inl ?_
    rw [publish, all]
    exact
      { stored := each
        taken
        calls := List.append_nil _
        result := congrArg Except.ok each.length_eq.symm }
  · rw [parts] at each
    have first := List.forall₂_take_append _ _ _ each
    obtain ⟨q, dueAfter, one, -, last⟩ :=
      List.forall₂_cons_right_iff.mp (List.forall₂_drop_append _ _ _ each)
    refine .inr ⟨(p.due created).take before.length, q, dueAfter, e, ?_, ?_⟩
    · rw [← last, List.take_append_drop]
    · rw [publish, stopped]
      exact
        { stored := first
          taken
          refused := ⟨c, one, refused, rfl⟩
          result := by
            rw [← one.path, ← one.scope]
            rfl }

/-- What a plan publishes is published of its connections. -/
theorem publications_eq {t : Topology} {scope : Scope} {backend : Backend} {s : Run}
    (planned : t.plan scope backend = .ok p s) :
    p.peering.publications =
      p.peering.connections.flatMap (PeeringPlan.publicationsOf t.settings.pathPrefix) := by
  obtain ⟨m, s₁, graph, routes, peering, s₂, rules, -, -, -, built, -, rfl⟩ := build_ok planned
  exact (PeeringPlan.build_ok built).2

end Plan

/-! ## Memories -/

namespace Snapshot

/-- The value under a path in the place that a text names. -/
def cell? (s : Snapshot) (place path : String) : Option String :=
  (s.values.get? place).bind (·.get? path)

theorem cell?_publish (s : Snapshot) (scope : Scope) (path value place path' : String) :
    (s.publish scope path value).cell? place path' =
      if scope.render = place ∧ path = path' then some value else s.cell? place path' := by
  unfold cell? publish
  rw [SortedMap.get?_insert]
  by_cases here : scope.render = place
  · subst here
    cases known : s.values.get? scope.render with
    | none => simp [SortedMap.get?_insert, eq_comm]
    | some values => simp [SortedMap.get?_insert, eq_comm]
  · rw [if_neg (Ne.symm here), if_neg fun both => here both.1]

end Snapshot

namespace PublishCall

/-- Whether a call writes to a cell. -/
def WritesTo (c : PublishCall) (place path : String) : Prop :=
  c.scope.render = place ∧ c.path = path

instance (c : PublishCall) (place path : String) : Decidable (c.WritesTo place path) :=
  inferInstanceAs (Decidable (_ ∧ _))

/-- The value of the last call of a sort. -/
def lastOf (sort : PublishCall → Bool) (calls : List PublishCall) : Option String :=
  (calls.filter sort).getLast?.map (·.value)

/-- The value that was written last to a cell. -/
def lastAt (place path : String) : List PublishCall → Option String :=
  lastOf (·.WritesTo place path)

variable {sort : PublishCall → Bool} {calls : List PublishCall} {value : String}

theorem lastOf_cons (sort : PublishCall → Bool) (c : PublishCall) (rest : List PublishCall) :
    lastOf sort (c :: rest) = (lastOf sort rest).or (if sort c then some c.value else none) := by
  by_cases chosen : sort c = true
  · rw [lastOf, List.filter_cons_of_pos chosen, List.getLast?_cons, if_pos chosen, lastOf]
    cases (rest.filter sort).getLast? <;> rfl
  · rw [lastOf, List.filter_cons_of_neg chosen, if_neg chosen, Option.or_none, lastOf]

theorem lastOf_eq_none (none : ∀ c ∈ calls, ¬sort c = true) : lastOf sort calls = .none := by
  rw [lastOf, List.filter_eq_nil_iff.mpr none]
  rfl

/-- If all calls of a sort have one value, and there is one, it is the last one. -/
theorem lastOf_eq_some (there : ∃ c ∈ calls, sort c = true)
    (agree : ∀ c ∈ calls, sort c = true → c.value = value) : lastOf sort calls = some value := by
  have chosen : calls.filter sort ≠ [] := by
    obtain ⟨c, hc, of⟩ := there
    exact List.ne_nil_of_mem (List.mem_filter.mpr ⟨hc, of⟩)
  obtain ⟨hc, of⟩ := List.mem_filter.mp (List.getLast_mem chosen)
  rw [lastOf, List.getLast?_eq_some_getLast chosen, Option.map_some, agree _ hc of]

end PublishCall

namespace Memory

variable {place path value : String} {calls : List PublishCall} {m : Memory}

theorem cell?_publish (m : Memory) (c : PublishCall) :
    (m.publish c).snapshot.cell? place path =
      if c.WritesTo place path then some c.value else m.snapshot.cell? place path := by
  exact m.snapshot.cell?_publish c.scope c.path c.value place path

/-- After some calls a cell has what was written last to it, or what it had. -/
theorem cell?_publishAll (m : Memory) (calls : List PublishCall) (place path : String) :
    (m.publishAll calls).snapshot.cell? place path =
      (PublishCall.lastAt place path calls).or (m.snapshot.cell? place path) := by
  induction calls generalizing m with
  | nil => rfl
  | cons c rest ih =>
    calc ((m.publish c).publishAll rest).snapshot.cell? place path
      _ = (PublishCall.lastAt place path rest).or ((m.publish c).snapshot.cell? place path) :=
          ih (m.publish c)
      _ = (PublishCall.lastAt place path (c :: rest)).or (m.snapshot.cell? place path) := by
          rw [PublishCall.lastAt, PublishCall.lastOf_cons, cell?_publish, Option.or_assoc]
          by_cases here : c.WritesTo place path <;> simp [here]

/-- A cell to which no call writes stays as it is. -/
theorem cell?_publishAll_of_untouched (untouched : ∀ c ∈ calls, ¬c.WritesTo place path) :
    (m.publishAll calls).snapshot.cell? place path = m.snapshot.cell? place path := by
  have never : PublishCall.lastAt place path calls = none :=
    PublishCall.lastOf_eq_none fun c hc => by simpa using untouched c hc
  rw [cell?_publishAll, never, Option.none_or]

/-- A cell to which all calls write one value has it, if some call does write to it. -/
theorem cell?_publishAll_of_agree (written : ∃ c ∈ calls, c.WritesTo place path)
    (agree : ∀ c ∈ calls, c.WritesTo place path → c.value = value) :
    (m.publishAll calls).snapshot.cell? place path = some value := by
  have last : PublishCall.lastAt place path calls = some value :=
    PublishCall.lastOf_eq_some (by simpa using written) (by simpa using agree)
  rw [cell?_publishAll, last, Option.some_or]

/-- Publishing changes nothing but values. -/
theorem publishAll_eq (m : Memory) (calls : List PublishCall) :
    m.publishAll calls =
      { m with snapshot :=
        { m.snapshot with values := (m.publishAll calls).snapshot.values } } := by
  induction calls generalizing m with
  | nil => rfl
  | cons c rest ih => exact ih (m.publish c)

end Memory

/-! ## What can be read afterwards -/

/-- What has become of a memory to which some publications of created resources were
written. -/
structure Memory.Gains (created : SortedMap String) (qs : List Publication) (m m' : Memory) :
    Prop where
  /-- What was written is what was created, wherever it was to be published. -/
  written : ∀ q ∈ qs, ∃ id, created.get? q.resourceKey = some id ∧
    m'.snapshot.value? q.scope q.path = some id
  /-- Cells to which nothing was to be published are as they were. -/
  untouched : ∀ place path, (∀ q ∈ qs, q.scope.render = place → q.path ≠ path) →
    m'.snapshot.cell? place path = m.snapshot.cell? place path
  /-- So is all that is not a value. -/
  rest : m' = { m with snapshot := { m.snapshot with values := m'.snapshot.values } }

/-- Publications of one path are of one resource. -/
def Publication.PathsTell (qs : List Publication) : Prop :=
  ∀ q ∈ qs, ∀ q' ∈ qs, q.path = q'.path → q.resourceKey = q'.resourceKey

/-- Where a path tells the resource, every value can be read after all are written. -/
theorem Memory.gains_publishAll {created : SortedMap String} {qs : List Publication}
    {calls : List PublishCall} (tell : Publication.PathsTell qs)
    (each : List.Forall₂ (Publication.Calls created) qs calls) (m : Memory) :
    Gains created qs m (m.publishAll calls) where
  written := by
    intro q hq
    obtain ⟨c, hc, one⟩ := exists_of_forall₂ each.flip hq
    refine ⟨c.value, one.value, cell?_publishAll_of_agree ⟨c, hc, by rw [one.scope], one.path⟩ ?_⟩
    intro c' hc' writes
    obtain ⟨q', hq', one'⟩ := exists_of_forall₂ each hc'
    have path : q'.path = q.path := one'.path.symm.trans writes.2
    have key := tell q' hq' q hq path
    exact Option.some.inj (one'.value.symm.trans (key ▸ one.value))
  untouched := by
    intro place path untouched
    refine cell?_publishAll_of_untouched fun c hc writes => ?_
    obtain ⟨q, hq, one⟩ := exists_of_forall₂ each hc
    exact untouched q hq (one.scope ▸ writes.1) (one.path ▸ writes.2)
  rest := publishAll_eq m calls

/-- A plan publishes connections, and the path of a connection gives back its key. -/
theorem PeeringPlan.pathsTell_publications (pathPrefix : String) (cs : List Connection) :
    Publication.PathsTell (cs.flatMap (publicationsOf pathPrefix)) := by
  intro q hq q' hq' path
  obtain ⟨c, -, ofConnection⟩ := List.mem_flatMap.mp hq
  obtain ⟨c', -, ofConnection'⟩ := List.mem_flatMap.mp hq'
  obtain ⟨side, rfl⟩ := mem_publicationsOf.mp ofConnection
  obtain ⟨side', rfl⟩ := mem_publicationsOf.mp ofConnection'
  exact Published.path_vpcPeering_injective path

theorem Publication.PathsTell.mono {qs qs' : List Publication} (tell : PathsTell qs)
    (fewer : qs' ⊆ qs) : PathsTell qs' :=
  fun q hq q' hq' => tell q (fewer hq) q' (fewer hq')

/-- A plan publishes the ids of its connections, at both ends. What was created of them is
published in this order up to the first failure, and nothing else is. A memory does not fail: all of
it can be read afterwards, at both ends of a connection, and nothing else has changed. -/
theorem publishing_reads_back {t : Topology} {scope : Scope} {backend : Backend} {p : Plan}
    {s : Run} (planned : t.plan scope backend = .ok p s) (created : SortedMap String) :
    p.peering.publications =
      p.peering.connections.flatMap (PeeringPlan.publicationsOf t.settings.pathPrefix) ∧
    (∀ publisher,
      (p.publish created publisher).Completes publisher created (p.due created) ∨
      ∃ before q after e, p.due created = before ++ q :: after ∧
        (p.publish created publisher).StopsAt publisher created before q e) ∧
    (p.publish created Memory.publisher).Completes Memory.publisher created (p.due created) ∧
    ∀ m m' : Memory, m' = m.publishAll (p.publish created Memory.publisher).stored →
      m.Gains created (p.due created) m' ∧
      ∀ c ∈ p.peering.connections, ∀ id, created.get? c.key = some id → ∀ side,
        m'.snapshot.value? (c.endOn side).scope
          ((Published.vpcPeering c.key).path t.settings.pathPrefix) = some id := by
  have publications := Plan.publications_eq planned
  have tell : Publication.PathsTell (p.due created) := by
    have all := PeeringPlan.pathsTell_publications t.settings.pathPrefix p.peering.connections
    rw [← publications] at all
    exact all.mono (List.filter_subset_self _)
  have completes : (p.publish created Memory.publisher).Completes Memory.publisher created
      (p.due created) := by
    rcases p.publish_due created Memory.publisher with all | ⟨_, _, _, _, -, stopped⟩
    · exact all
    · obtain ⟨c, -, refused, -⟩ := stopped.refused
      exact nomatch refused
  refine ⟨publications, fun publisher => p.publish_due created publisher, completes, ?_⟩
  rintro m _ rfl
  have gains := Memory.gains_publishAll tell completes.stored m
  refine ⟨gains, fun c hc id found side => ?_⟩
  have there : ⟨(c.endOn side).scope, (Published.vpcPeering c.key).path t.settings.pathPrefix,
      c.key⟩ ∈ p.peering.publications := by
    rw [publications]
    exact List.mem_flatMap.mpr ⟨c, hc, PeeringPlan.mem_publicationsOf.mpr ⟨side, rfl⟩⟩
  have due := Plan.mem_due.mpr ⟨there, Option.isSome_iff_exists.mpr ⟨id, found⟩⟩
  obtain ⟨id', found', read⟩ := gains.written _ due
  exact read.trans (found'.symm.trans found)

/-- The peering of the sample is published at both ends, when it was created. A publisher that takes
one value stops at the other end, and a memory has both. -/
theorem publishing_reads_back_sample :
    let created := SortedMap.ofList [("AppShared", "pcx"), ("Other", "none")]
    let path := "/accel/network/vpcPeering/AppShared/id"
    let once : Publisher := fun done _ => if done.isEmpty then .ok () else .error (.throttled 3)
    ∃ p s, Topology.sample.plan ⟨"Workload", "us-east-1"⟩ (.fixed fun _ => .value "id") = .ok p s ∧
      p.due created =
        [⟨⟨"Workload", "us-east-1"⟩, path, "AppShared"⟩,
          ⟨⟨"Network", "us-east-1"⟩, path, "AppShared"⟩] ∧
      (p.publish created once).result =
        .error (.lookupFailed path ⟨"Network", "us-east-1"⟩ (.throttled 3)) ∧
      (p.publish created Memory.publisher).Completes Memory.publisher created (p.due created) ∧
      Memory.sample.Gains created (p.due created)
        (Memory.sample.publishAll (p.publish created Memory.publisher).stored) := by
  intro created path once
  have run : (Plan.build (Topology.sample.vantage ⟨"Workload", "us-east-1"⟩
      (.fixed fun _ => .value "id")) .sample).comesTo (fun p =>
        decide (p.due created =
            [⟨⟨"Workload", "us-east-1"⟩, path, "AppShared"⟩,
              ⟨⟨"Network", "us-east-1"⟩, path, "AppShared"⟩] ∧
          (p.publish created once).refused =
            some (⟨⟨"Network", "us-east-1"⟩, path, "pcx"⟩, .throttled 3))) = true := by
    decide +kernel
  obtain ⟨p, s, planned, check⟩ := Lookup.exists_of_comesTo run
  obtain ⟨due, refused⟩ := of_decide_eq_true check
  obtain ⟨-, -, completes, gains⟩ := publishing_reads_back planned created
  exact ⟨p, s, planned, due, by rw [Publishing.result, refused], completes, (gains _ _ rfl).1⟩

end Interlink
