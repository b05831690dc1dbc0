import Interlink.Proofs.CededEdges

/-!
# When logical ids tell edges apart

An association or propagation has a logical id, which stands for it inside its unit. It is
joined by hyphens from the name of the attachment, that of the route table, the account
where the child may be deployed to several, and the sort of the edge. The sort holds no
hyphen, so an id gives back the sort and what stands before it, which is the stem
(`DeclaredEdge.logicalId_eq_iff`).

Neither the child nor the gateway is in the stem, and the names may hold hyphens
themselves. The ids of a plan are therefore distinct if and only if no two edges of a sort
that the unit creates have one stem (`logical_ids_distinct_iff`), which validation does not
see to: attachments of two VPCs may have one name (`logical_ids_collide`). Where the account
and the names of route tables hold no hyphen, one stem means the same names, or a route
table that is named like the account (`DeclaredEdge.stem_eq_iff`).
-/

namespace Interlink

/-! ## Texts behind a hyphen -/

/-- What stands behind the last mark can be told from what stands before it. -/
theorem behind_mark {mark : Char} {x y x' y' : List Char} (plain : mark ∉ y) (plain' : mark ∉ y')
    (same : x ++ mark :: y = x' ++ mark :: y') : x = x' ∧ y = y' := by
  -- if one mark stood before the other one, this would be behind it
  have never {c : Char} {more z z' : List Char} (plain : mark ∉ z)
      (behind : mark :: z = c :: more ++ mark :: z') : False := by
    obtain ⟨-, rfl⟩ := List.cons.inj behind
    exact plain (List.mem_append_right more List.mem_cons_self)
  rcases List.append_eq_append_iff.mp same with ⟨more, rfl, behind⟩ | ⟨more, rfl, behind⟩
  · cases more with
    | nil => exact ⟨(List.append_nil x).symm, (List.cons.inj behind).2⟩
    | cons c rest => exact (never plain behind).elim
  · cases more with
    | nil => exact ⟨List.append_nil x', (List.cons.inj behind).2.symm⟩
    | cons c rest => exact (never plain' behind).elim

/-- A text without hyphens can be told from what stands before it, whatever that is. -/
theorem hyphened_eq_iff {a b a' b' : String} (plain : '-' ∉ b.toList) (plain' : '-' ∉ b'.toList) :
    a ++ "-" ++ b = a' ++ "-" ++ b' ↔ a = a' ∧ b = b' := by
  constructor
  · intro same
    have texts : a.toList ++ '-' :: b.toList = a'.toList ++ '-' :: b'.toList := by
      simpa using congrArg String.toList same
    obtain ⟨before, behind⟩ := behind_mark plain plain' texts
    exact ⟨String.toList_inj.mp before, String.toList_inj.mp behind⟩
  · rintro ⟨rfl, rfl⟩
    rfl

/-! ## Stems -/

namespace DeclaredEdge

variable {d d' : DeclaredEdge}

/-- The identity of an edge inside the unit that creates it. -/
def logicalId (d : DeclaredEdge) : String :=
  Key.logicalId d.attachment.name d.table
    (if d.attachment.templated then some d.attachment.owner.account else none) d.kind.label

/-- What the identity says of an edge besides its sort. -/
def stem (d : DeclaredEdge) : String :=
  if d.attachment.templated then
    d.attachment.name ++ "-" ++ d.table ++ "-" ++ d.attachment.owner.account
  else d.attachment.name ++ "-" ++ d.table

theorem stem_templated (templated : d.attachment.templated = true) :
    d.stem = d.attachment.name ++ "-" ++ d.table ++ "-" ++ d.attachment.owner.account :=
  if_pos templated

theorem stem_single (single : d.attachment.templated = false) :
    d.stem = d.attachment.name ++ "-" ++ d.table :=
  if_neg (Bool.eq_false_iff.mp single)

theorem logicalId_eq (d : DeclaredEdge) : d.logicalId = d.stem ++ "-" ++ d.kind.label := by
  unfold logicalId stem
  split <;> rfl

/-- Edges have one identity if they are of one sort and have one stem. -/
theorem logicalId_eq_iff : d.logicalId = d'.logicalId ↔ d.kind = d'.kind ∧ d.stem = d'.stem := by
  have plain (kind : EdgeKind) : '-' ∉ kind.label.toList := by
    cases kind <;> decide
  have labels {kind kind' : EdgeKind} : kind.label = kind'.label ↔ kind = kind' := by
    cases kind <;> cases kind' <;> decide
  rw [logicalId_eq, logicalId_eq, hyphened_eq_iff (plain _) (plain _), labels, and_comm]

/-- The route table of an edge is named like the account in the stem of the other. -/
structure ReadsAs (d d' : DeclaredEdge) : Prop where
  single : d.attachment.templated = false
  templated : d'.attachment.templated = true
  table : d.table = d'.attachment.owner.account
  name : d.attachment.name = d'.attachment.name ++ "-" ++ d'.table

/-- The names of an edge, and whether its child may be deployed to several accounts. -/
def names (d : DeclaredEdge) : String × String × Bool :=
  (d.attachment.name, d.table, d.attachment.templated)

theorem not_readsAs (same : d.attachment.templated = d'.attachment.templated) : ¬d.ReadsAs d' := by
  intro reads
  exact nomatch reads.single.symm.trans (same.trans reads.templated)

theorem stem_eq_iff_readsAs (single : d.attachment.templated = false)
    (templated : d'.attachment.templated = true) (plain : '-' ∉ d.table.toList)
    (account : '-' ∉ d'.attachment.owner.account.toList) : d.stem = d'.stem ↔ d.ReadsAs d' := by
  rw [stem_single single, stem_templated templated, hyphened_eq_iff plain account]
  constructor
  · rintro ⟨name, table⟩
    exact ⟨single, templated, table, name⟩
  · rintro ⟨-, -, table, name⟩
    exact ⟨name, table⟩

/-- Edges of one account have one stem if they have the same names, or if one reads as the
other. -/
theorem stem_eq_iff (owner : d.attachment.owner.account = d'.attachment.owner.account)
    (account : '-' ∉ d'.attachment.owner.account.toList) (plain : '-' ∉ d.table.toList)
    (plain' : '-' ∉ d'.table.toList) :
    d.stem = d'.stem ↔ d.names = d'.names ∨ d.ReadsAs d' ∨ d'.ReadsAs d := by
  by_cases same : d.attachment.templated = d'.attachment.templated
  · have names : d.names = d'.names ↔
        d.attachment.name = d'.attachment.name ∧ d.table = d'.table := by
      simp [names, same]
    rw [or_iff_left (not_or.mpr ⟨not_readsAs same, not_readsAs same.symm⟩), names]
    cases templated : d'.attachment.templated with
    | false =>
      rw [stem_single (same.trans templated), stem_single templated, hyphened_eq_iff plain plain']
    | true =>
      rw [stem_templated (same.trans templated), stem_templated templated, owner,
        hyphened_eq_iff account account, hyphened_eq_iff plain plain', and_iff_left rfl]
  · have names : d.names ≠ d'.names := by
      simp [names, same]
    rw [or_iff_right names]
    cases templated : d'.attachment.templated with
    | false =>
      have other : d.attachment.templated = true := by
        rwa [templated, Bool.not_eq_false] at same
      have never : ¬d.ReadsAs d' := fun reads => nomatch other.symm.trans reads.single
      rw [or_iff_right never, eq_comm, stem_eq_iff_readsAs templated other plain' (owner ▸ account)]
    | true =>
      have other : d.attachment.templated = false := by
        rwa [templated, Bool.not_eq_true] at same
      have never : ¬d'.ReadsAs d := fun reads => nomatch templated.symm.trans reads.single
      rw [or_iff_left never, stem_eq_iff_readsAs other templated plain account]

end DeclaredEdge

/-! ## The edges that a unit creates -/

/-- The edges of a sort that a unit creates: those of its own attachments that are not left to
others. -/
def Topology.createdEdges (t : Topology) (scope : Scope) (ds : List Attachment) (kind : EdgeKind) :
    List DeclaredEdge :=
  (declaredEdges kind (ds.filter (·.owner == scope))).filter
    fun d => d.key ∉ t.network.external.keys kind

theorem Topology.mem_createdEdges {t : Topology} {scope : Scope} {ds : List Attachment}
    {kind : EdgeKind} {d : DeclaredEdge} (hd : d ∈ t.createdEdges scope ds kind) :
    d.kind = kind ∧ d.attachment.owner = scope := by
  obtain ⟨sort, own, -⟩ := mem_declaredEdges.mp (List.mem_filter.mp hd).1
  exact ⟨sort, beq_iff_eq.mp (List.mem_filter.mp own).2⟩

/-- What is created of declared edges is, with repetitions, what is not left to others. -/
theorem Settles.created {external : ExternalEdges} {kind : EdgeKind} {as : List Attachment}
    {edges : List Edge} {skipped : List SkippedEdge}
    (h : Settles (.ofExternal external) (declaredEdges kind as) edges skipped) :
    ∃ created, created.Perm ((declaredEdges kind as).filter fun d => d.key ∉ external.keys kind) ∧
      List.Forall₂ Edge.Creates edges created := by
  obtain ⟨created, left, all, ours, others, creates, -⟩ := h
  have sort {d : DeclaredEdge} (hd : d ∈ created ++ left) : d.kind = kind :=
    (mem_declaredEdges.mp (all.mem_iff.mp hd)).1
  have kept : created.filter (fun d => d.key ∉ external.keys kind) = created := by
    refine List.filter_eq_self.mpr fun d hd => ?_
    have our := ours d hd
    rw [sort (List.mem_append_left _ hd), EdgeKeys.contains_ofExternal_eq] at our
    simpa using our
  have ceded : left.filter (fun d => d.key ∉ external.keys kind) = [] := by
    refine List.filter_eq_nil_iff.mpr fun d hd => ?_
    have other := others d hd
    rw [sort (List.mem_append_right _ hd), EdgeKeys.contains_ofExternal_eq] at other
    simpa using other
  have same := all.filter fun d => d.key ∉ external.keys kind
  rw [List.filter_append, kept, ceded, List.append_nil] at same
  exact ⟨created, same, creates⟩

theorem Edge.Creates.logicalId_eq {e : Edge} {d : DeclaredEdge} (h : e.Creates d) :
    e.logicalId = d.logicalId := h.logicalId

namespace Plan

variable {p : Plan} {t : Topology} {scope : Scope} {ds : List Attachment} {kind kind' : EdgeKind}

/-- The logical ids of the edges of a plan. -/
def logicalIds (p : Plan) : List String := (p.associations ++ p.propagations).map (·.logicalId)

/-- The edges of a plan are, in some order, those that its unit is to create. -/
def Creates (p : Plan) (t : Topology) (scope : Scope) (ds : List Attachment) : Prop :=
  ∀ kind, ∃ created, created.Perm (t.createdEdges scope ds kind) ∧
    List.Forall₂ Edge.Creates (p.edges kind) created

theorem Creates.kind_eq (h : p.Creates t scope ds) {e : Edge} (he : e ∈ p.edges kind) :
    e.kind = kind := by
  obtain ⟨created, same, creates⟩ := h kind
  obtain ⟨d, hd, drawn⟩ := exists_of_forall₂ creates.flip he
  exact drawn.kind.trans (Topology.mem_createdEdges (same.subset hd)).1

/-- Two edges of a plan have one logical id if they are of one sort and have one stem. -/
theorem Creates.logicalId_eq_iff (h : p.Creates t scope ds) {e e' : Edge} {d d' : DeclaredEdge}
    (he : e ∈ p.edges kind) (he' : e' ∈ p.edges kind') (drawn : e.Creates d)
    (drawn' : e'.Creates d') :
    e.logicalId = e'.logicalId ↔ kind = kind' ∧ d.stem = d'.stem := by
  rw [drawn.logicalId_eq, drawn'.logicalId_eq, ← h.kind_eq he, ← h.kind_eq he', drawn.kind,
    drawn'.kind]
  exact DeclaredEdge.logicalId_eq_iff

/-- The logical ids of one sort are distinct if the stems are. -/
theorem Creates.nodup_iff (h : p.Creates t scope ds) (kind : EdgeKind) :
    ((p.edges kind).map (·.logicalId)).Nodup ↔
      ((t.createdEdges scope ds kind).map DeclaredEdge.stem).Nodup := by
  obtain ⟨created, same, creates⟩ := h kind
  have ids : (p.edges kind).map (·.logicalId) = created.map DeclaredEdge.logicalId := by
    have each : List.Forall₂ (· = ·) ((p.edges kind).map (·.logicalId))
        (created.map DeclaredEdge.logicalId) := by
      rw [List.forall₂_map_left_iff, List.forall₂_map_right_iff]
      exact creates.imp fun _ _ drawn => drawn.logicalId_eq
    rwa [List.forall₂_eq_eq_eq] at each
  have spelled : (t.createdEdges scope ds kind).map DeclaredEdge.logicalId =
      ((t.createdEdges scope ds kind).map DeclaredEdge.stem).map (· ++ "-" ++ kind.label) := by
    rw [List.map_map]
    refine List.map_congr_left fun d hd => ?_
    rw [DeclaredEdge.logicalId_eq, (Topology.mem_createdEdges hd).1]
    rfl
  have injective : Function.Injective (· ++ "-" ++ kind.label) := by
    intro a b equal
    exact (String.append_left_inj _).mp ((String.append_left_inj _).mp equal)
  rw [ids, (same.map _).nodup_iff, spelled, List.nodup_map_iff injective]

/-- The logical ids of a plan are distinct if the stems of either sort are. -/
theorem Creates.nodup_logicalIds_iff (h : p.Creates t scope ds) :
    p.logicalIds.Nodup ↔
      ∀ kind, ((t.createdEdges scope ds kind).map DeclaredEdge.stem).Nodup := by
  have sorts : List.Disjoint ((p.edges .association).map (·.logicalId))
      ((p.edges .propagation).map (·.logicalId)) := by
    intro id first second
    obtain ⟨e, he, rfl⟩ := List.mem_map.mp first
    obtain ⟨e', he', equal⟩ := List.mem_map.mp second
    obtain ⟨_, -, creates⟩ := h .association
    obtain ⟨_, -, creates'⟩ := h .propagation
    obtain ⟨d, -, drawn⟩ := exists_of_forall₂ creates.flip he
    obtain ⟨d', -, drawn'⟩ := exists_of_forall₂ creates'.flip he'
    exact nomatch ((h.logicalId_eq_iff he' he drawn' drawn).mp equal).1
  have split : p.logicalIds = (p.edges .association).map (·.logicalId) ++
      (p.edges .propagation).map (·.logicalId) := List.map_append
  rw [split, List.nodup_append', h.nodup_iff, h.nodup_iff]
  constructor
  · rintro ⟨associations, propagations, -⟩ kind
    cases kind with
    | association => exact associations
    | propagation => exact propagations
  · intro distinct
    exact ⟨distinct _, distinct _, sorts⟩

end Plan

/-- Stems are distinct where the names are and no edge reads as another one. -/
theorem Topology.nodup_stems_iff {t : Topology} {scope : Scope} {ds : List Attachment}
    {kind : EdgeKind} (account : '-' ∉ scope.account.toList)
    (tables : ∀ d ∈ t.createdEdges scope ds kind, '-' ∉ d.table.toList) :
    ((t.createdEdges scope ds kind).map DeclaredEdge.stem).Nodup ↔
      (t.createdEdges scope ds kind).Pairwise fun d d' =>
        d.names ≠ d'.names ∧ ¬d.ReadsAs d' ∧ ¬d'.ReadsAs d := by
  rw [List.Nodup, List.pairwise_map]
  refine List.Pairwise.iff_of_mem fun {d d'} hd hd' => ?_
  have owner := (mem_createdEdges hd).2
  have owner' := (mem_createdEdges hd').2
  rw [Ne, DeclaredEdge.stem_eq_iff (by rw [owner, owner']) (by rwa [owner']) (tables d hd)
    (tables d' hd'), not_or, not_or]

/-- Any two edges of a plan differ in their keys. Two of them have one logical id if and only if
they are of one sort and have one stem, so that the ids are distinct if and only if the stems of
the edges of either sort are, that the unit creates. Where neither its account nor the name of
such a route table holds a hyphen, this asks for different names, none of which reads as others. -/
theorem logical_ids_distinct_iff {t : Topology} (valid : t.validate = .ok ()) {scope : Scope}
    {backend : Backend} {p : Plan} {s : Run} (run : t.plan scope backend = .ok p s) :
    ∃ ds, t.attachments t.registry scope = .ok ds ∧ p.Creates t scope ds ∧
      (∀ kind, ((p.edges kind).map (·.key)).Nodup) ∧
      (∀ kind kind', ∀ e ∈ p.edges kind, ∀ e' ∈ p.edges kind', ∀ d d', e.Creates d →
        e'.Creates d' → (e.logicalId = e'.logicalId ↔ kind = kind' ∧ d.stem = d'.stem)) ∧
      (p.logicalIds.Nodup ↔
        ∀ kind, ((t.createdEdges scope ds kind).map DeclaredEdge.stem).Nodup) ∧
      ('-' ∉ scope.account.toList →
        (∀ kind, ∀ d ∈ t.createdEdges scope ds kind, '-' ∉ d.table.toList) →
        (p.logicalIds.Nodup ↔ ∀ kind, (t.createdEdges scope ds kind).Pairwise fun d d' =>
          d.names ≠ d'.names ∧ ¬d.ReadsAs d' ∧ ¬d'.ReadsAs d)) := by
  obtain ⟨-, ds, described, settles⟩ :=
    Plan.settles_of_build (Topology.faultless_of_validate valid) run
  obtain ⟨m, s₁, graph, routes, peering, s₂, rules, -, planned, -, -, -, rfl⟩ := Plan.build_ok run
  have creates : Plan.Creates _ t scope ds := fun kind => (settles kind).created
  refine ⟨ds, described, creates, ?keys, ?ids, creates.nodup_logicalIds_iff, ?plain⟩
  case keys =>
    intro kind
    rw [Plan.edges_assemble]
    exact (Plan.edges_requested planned kind).1
  case ids =>
    intro kind kind' e he e' he' d d' drawn drawn'
    exact creates.logicalId_eq_iff he he' drawn drawn'
  case plain =>
    intro account tables
    rw [creates.nodup_logicalIds_iff]
    exact forall_congr' fun kind => Topology.nodup_stems_iff account (tables kind)

/-- The unit of the sample creates one edge of either sort, so their ids are distinct. -/
theorem logical_ids_distinct_iff_sample :
    ∃ p s, Topology.sample.plan ⟨"Workload", "us-east-1"⟩ (.fixed fun _ => .value "id") = .ok p s ∧
      p.associations.length = 1 ∧ p.propagations.length = 1 ∧ p.logicalIds.Nodup := by
  have planned : (Plan.build (Topology.sample.vantage ⟨"Workload", "us-east-1"⟩
      (.fixed fun _ => .value "id")) .sample).comesTo (fun p => decide
        (p.associations.length = 1 ∧ p.propagations.length = 1)) = true := by
    decide +kernel
  obtain ⟨p, s, run, check⟩ := Lookup.exists_of_comesTo planned
  obtain ⟨associations, propagations⟩ := of_decide_eq_true check
  have single : ∃ ds, Topology.sample.attachments Topology.sample.registry
      ⟨"Workload", "us-east-1"⟩ = .ok ds ∧ ∀ kind, ∃ d,
        Topology.sample.createdEdges ⟨"Workload", "us-east-1"⟩ ds kind = [d] ∧
          '-' ∉ d.table.toList := by
    refine ⟨_, rfl, fun kind => ?_⟩
    cases kind <;> exact ⟨_, rfl, by decide⟩
  obtain ⟨ds, described, single⟩ := single
  obtain ⟨ds', described', -, -, -, -, distinct⟩ :=
    logical_ids_distinct_iff Topology.sample_valid run
  obtain rfl : ds' = ds := Except.ok.inj (described'.symm.trans described)
  refine ⟨p, s, run, associations, propagations,
    (distinct (by decide) fun kind => ?_).mpr fun kind => ?_⟩
  · obtain ⟨d, one, table⟩ := single kind
    rw [one]
    exact List.forall_mem_singleton.mpr table
  · obtain ⟨d, one, -⟩ := single kind
    rw [one]
    exact List.pairwise_singleton ..

/-- Two VPCs attached to one gateway, with attachments of one name. -/
def Topology.sampleLinks : Topology where
  settings := { homeRegion := "eu-west-1" }
  accounts :=
    [{ name := "Network", id := "111111111111", organizationalUnit := none },
      { name := "Workload", id := "222222222222", organizationalUnit := none }]
  network :=
    { gateways :=
        [{ name := "Core", account := "Network", region := "us-east-1"
           routeTables := [{ name := "hub" }, { name := "spokes" }] }]
      vpcs :=
        [{ name := "App", region := "us-east-1", placement := .single "Workload"
           cidrs := ["10.0.0.0/16"], ipamPool := none
           attachments :=
             [{ name := "link", gateway := ⟨"Core", "Network"⟩, associations := ["spokes"] }] },
          { name := "Db", region := "us-east-1", placement := .single "Workload"
            cidrs := ["10.1.0.0/16"], ipamPool := none
            attachments :=
              [{ name := "link", gateway := ⟨"Core", "Network"⟩, associations := ["spokes"] }] }] }

/-- In a valid topology two edges of one unit can have one logical id: the associations of two
VPCs whose attachments have one name. -/
theorem logical_ids_collide :
    Topology.sampleLinks.validate = .ok () ∧
    ∃ p s, Topology.sampleLinks.plan ⟨"Workload", "us-east-1"⟩ (.fixed fun _ => .value "id") =
        .ok p s ∧
      p.associations.map (fun e => (e.key, e.logicalId)) =
        [("Core_Workload_App__spokes", "link-spokes-association"),
          ("Core_Workload_Db__spokes", "link-spokes-association")] ∧
      ¬p.logicalIds.Nodup := by
  refine ⟨rfl, ?_⟩
  have planned : (Plan.build (Topology.sampleLinks.vantage ⟨"Workload", "us-east-1"⟩
      (.fixed fun _ => .value "id")) .sampleLinks).comesTo (fun p => decide
        (p.associations.map (fun e => (e.key, e.logicalId)) =
            [("Core_Workload_App__spokes", "link-spokes-association"),
              ("Core_Workload_Db__spokes", "link-spokes-association")] ∧
          ¬p.logicalIds.Nodup)) = true := by
    decide +kernel
  obtain ⟨p, s, run, check⟩ := Lookup.exists_of_comesTo planned
  exact ⟨p, s, run, of_decide_eq_true check⟩

end Interlink
