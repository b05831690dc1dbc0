import Interlink.Proofs.Accounts
import Interlink.Proofs.Expansion
import Interlink.Plan.Publish
import Mathlib.Data.List.ReduceOption
import Mathlib.Data.Prod.Basic

/-!
# When the keys of connections differ

The key of a connection is the name of its peering with an account id behind it for
every side whose VPC can be deployed to several accounts. This tells the connections of
one peering apart. But names are the operator's, and a name may end as another name's
key does. `connection_keys_distinct_iff` says when two connections of a valid topology
have one key: if and only if the name of one is that of the other with account ids of
the other's key behind it (`Connection.Absorbs`). Ids have one length, so a key gives
back its ids from the end, if only one knows how many there are.

What is published of a connection stands under its key, so connections of one key are
published at one path, with the id of one created resource.
-/

namespace Interlink

/-! ## Ids behind a name -/

namespace Key

/-- What some ids add to a name. -/
def behind (ids : List String) : List Char := ids.flatMap fun id => '_' :: id.toList

theorem peering_toList (name : String) (requesterId accepterId : Option String) :
    (peering name requesterId accepterId).toList =
      name.toList ++ behind [requesterId, accepterId].reduceOption := by
  have onward : ∀ (ids : List String) (start : String),
      (ids.foldl (fun key id => key ++ "_" ++ id) start).toList = start.toList ++ behind ids := by
    intro ids
    induction ids with
    | nil =>
      intro start
      simp [behind]
    | cons id rest ih =>
      intro start
      rw [List.foldl_cons, ih]
      simp [behind]
  exact onward _ name

theorem behind_append (ids others : List String) :
    behind (ids ++ others) = behind ids ++ behind others :=
  List.flatMap_append

section Uniform

variable {size : Nat} {ids ids' : List String}

theorem length_behind (uniform : ∀ id ∈ ids, id.toList.length = size) :
    (behind ids).length = ids.length * (size + 1) := by
  induction ids with
  | nil => simp [behind]
  | cons id rest ih =>
    obtain ⟨first, others⟩ := List.forall_mem_cons.mp uniform
    have step : behind (id :: rest) = '_' :: (id.toList ++ behind rest) := rfl
    rw [step, List.length_cons, List.length_append, ih others, first, List.length_cons,
      Nat.add_mul]
    omega

/-- Equally many ids of one length are told by what they add. -/
theorem behind_injective (uniform : ∀ id ∈ ids, id.toList.length = size)
    (uniform' : ∀ id ∈ ids', id.toList.length = size) (many : ids.length = ids'.length)
    (same : behind ids = behind ids') : ids = ids' := by
  induction ids generalizing ids' with
  | nil => exact (List.length_eq_zero_iff.mp many.symm).symm
  | cons id rest ih =>
    cases ids' with
    | nil => exact nomatch many
    | cons id' rest' =>
      obtain ⟨first, others⟩ := List.forall_mem_cons.mp uniform
      obtain ⟨first', others'⟩ := List.forall_mem_cons.mp uniform'
      have texts : id.toList ++ behind rest = id'.toList ++ behind rest' := (List.cons.inj same).2
      obtain ⟨ids, more⟩ := List.append_inj texts (first.trans first'.symm)
      rw [String.toList_inj.mp ids, ih others others' (Nat.succ.inj many) more]

/-- Where ids have one length, two names with ids behind them are the same text if and only if
the first name ends with what the second one has more. -/
theorem append_behind_eq_iff (uniform : ∀ id ∈ ids, id.toList.length = size)
    (uniform' : ∀ id ∈ ids', id.toList.length = size) (fewer : ids.length ≤ ids'.length)
    {name name' : List Char} :
    name ++ behind ids = name' ++ behind ids' ↔
      ∃ more, name = name' ++ behind more ∧ ids' = more ++ ids := by
  constructor
  · intro same
    let more := ids'.take (ids'.length - ids.length)
    let last := ids'.drop (ids'.length - ids.length)
    have parts : ids' = more ++ last := (List.take_append_drop _ ids').symm
    have many : ids.length = last.length := by
      rw [List.length_drop]
      omega
    have uniformLast : ∀ id ∈ last, id.toList.length = size :=
      fun id hid => uniform' id (List.mem_of_mem_drop hid)
    rw [parts, behind_append, ← List.append_assoc] at same
    have lengths : (behind ids).length = (behind last).length := by
      rw [length_behind uniform, length_behind uniformLast, many]
    obtain ⟨names, ends⟩ := List.append_inj' same lengths
    exact ⟨more, names, parts.trans (by rw [behind_injective uniform uniformLast many ends])⟩
  · rintro ⟨more, rfl, rfl⟩
    rw [behind_append, List.append_assoc]

end Uniform

end Key

/-! ## Connections -/

namespace Connection

/-- What tells a connection from all others: the peering and the two accounts. -/
def identity (c : Connection) : String × String × String :=
  (c.name, c.requester.scope.account, c.accepter.scope.account)

/-- The account ids in the key of a connection. -/
def keyIds (c : Connection) : List String :=
  [c.requester.distinction, c.accepter.distinction].reduceOption

/-- The name of a connection is that of another one with account ids behind it: the first ones
of that one's key, whose others are those of its own key. -/
def Absorbs (c c' : Connection) : Prop :=
  ∃ ids ≠ [], c.name.toList = c'.name.toList ++ Key.behind ids ∧ c'.keyIds = ids ++ c.keyIds

/-- The key of a connection has fewer ids than that of the one whose ids its name holds. -/
theorem Absorbs.fewer {c c' : Connection} (h : c.Absorbs c') :
    c.keyIds.length < c'.keyIds.length := by
  obtain ⟨ids, some, -, more⟩ := h
  have := List.length_pos_iff.mpr some
  rw [more, List.length_append]
  omega

theorem Absorbs.ne {c c' : Connection} (h : c.Absorbs c') : c ≠ c' := by
  rintro rfl
  exact Nat.lt_irrefl _ h.fewer

end Connection

/-- What the keys of two connections have to do with each other. -/
structure KeysOf (c c' : Connection) : Prop where
  /-- The keys are the same if and only if one name is the other one with ids behind it. -/
  key : c.key = c'.key ↔ c.Absorbs c' ∨ c'.Absorbs c
  /-- The connections are published in one place if and only if they have one key and an end
  in one scope. -/
  published : ∀ pathPrefix,
    (∃ p ∈ PeeringPlan.publicationsOf pathPrefix c, ∃ q ∈ PeeringPlan.publicationsOf pathPrefix c',
      p.scope = q.scope ∧ p.path = q.path) ↔
    c.key = c'.key ∧ ∃ side side', (c.endOn side).scope = (c'.endOn side').scope
  /-- What is published of them is the id of one resource if and only if they have one key. -/
  resource : ∀ pathPrefix, ∀ p ∈ PeeringPlan.publicationsOf pathPrefix c,
    ∀ q ∈ PeeringPlan.publicationsOf pathPrefix c', p.resourceKey = q.resourceKey ↔ c.key = c'.key

namespace PeeringPlan

/-- A connection is published in the scopes of its ends. -/
theorem mem_publicationsOf {pathPrefix : String} {c : Connection} {p : Publication} :
    p ∈ publicationsOf pathPrefix c ↔
      ∃ side, p = ⟨(c.endOn side).scope, (Published.vpcPeering c.key).path pathPrefix, c.key⟩ := by
  unfold publicationsOf
  rw [List.mem_cons]
  constructor
  · rintro (rfl | other)
    · exact ⟨.requester, rfl⟩
    · split at other
      · exact nomatch other
      · exact ⟨.accepter, List.mem_singleton.mp other⟩
  · rintro ⟨side | side, rfl⟩
    · exact .inl rfl
    · by_cases same : c.accepter.scope = c.requester.scope
      · exact .inl (by rw [Connection.endOn, same])
      · rw [if_neg same]
        exact .inr (List.mem_singleton_self _)

end PeeringPlan

/-- Different connections are published under different paths, whatever their keys hold. -/
theorem Published.path_vpcPeering_injective {key key' pathPrefix : String}
    (same : (vpcPeering key).path pathPrefix = (vpcPeering key').path pathPrefix) : key = key' := by
  have texts := congrArg String.toList same
  simp only [path_toList, segments, joined, List.flatMap_cons, List.flatMap_nil] at texts
  have behind := List.append_cancel_left (List.append_cancel_left texts)
  exact String.toList_inj.mp (List.append_cancel_right (List.cons.inj behind).2)

namespace Topology

variable {t : Topology} {pathPrefix : String} {cs : List Connection} {c c' : Connection}
  {p : VpcPeering} {near far : Vpc} {accounts accounts' : String × String}

/-! ## One connection -/

theorem Connects.key_toList (h : t.Connects pathPrefix p near far accounts c) :
    c.key.toList = c.name.toList ++ Key.behind c.keyIds := by
  rw [h.key, h.name, Key.peering_toList]
  rfl

theorem Connects.identity (h : t.Connects pathPrefix p near far accounts c) :
    c.identity = (p.name, accounts) := by
  rw [Connection.identity, h.name, h.requester.scope, h.accepter.scope]

/-- The ids in the key of a connection are those of accounts. -/
theorem Connects.known (h : t.Connects pathPrefix p near far accounts c) {id : String}
    (hid : id ∈ c.keyIds) : ∃ account, t.registry.accountId? account = some id := by
  have ofEnd {v : Vpc} {account : String} {e : PeeringEnd} (stands : t.Stands v account e)
      (distinct : e.distinction = some id) :
      ∃ account, t.registry.accountId? account = some id := by
    unfold PeeringEnd.distinction at distinct
    split at distinct
    · cases distinct
      exact ⟨account, stands.accountId⟩
    · exact nomatch distinct
  have listed := List.reduceOption_mem_iff.mp hid
  simp only [List.mem_cons, List.not_mem_nil, or_false] at listed
  rcases listed with own | other
  · exact ofEnd h.requester own.symm
  · exact ofEnd h.accepter other.symm

/-- The ids in the key of a connection have one length. -/
theorem Faultless.length_of_keyIds (faultless : t.Faultless)
    (h : t.Connects pathPrefix p near far accounts c) : ∀ id ∈ c.keyIds, id.toList.length = 12 := by
  intro id hid
  obtain ⟨account, known⟩ := h.known hid
  exact faultless.length_of_accountId known

/-- A VPC has an account id in a key if it can be deployed to several accounts. -/
theorem Stands.distinction_isSome {v : Vpc} {account : String} {e : PeeringEnd}
    (h : t.Stands v account e) : e.distinction.isSome = v.placement.isTemplated := by
  unfold PeeringEnd.distinction
  rw [h.templated]
  cases v.placement.isTemplated <;> rfl

/-- The account that a VPC stands in is told by what tells the ends of the VPC apart. -/
theorem Faultless.account_eq_of_distinction (faultless : t.Faultless) {v : Vpc}
    {account account' : String} {e e' : PeeringEnd}
    (deployed : account ∈ t.registry.vpcAccounts v)
    (deployed' : account' ∈ t.registry.vpcAccounts v) (h : t.Stands v account e)
    (h' : t.Stands v account' e') (same : e.distinction = e'.distinction) : account = account' := by
  unfold Registry.vpcAccounts Registry.placed at deployed deployed'
  cases placement : v.placement with
  | single only =>
    rw [placement] at deployed deployed'
    exact (List.mem_singleton.mp deployed).trans (List.mem_singleton.mp deployed').symm
  | targets choice =>
    unfold PeeringEnd.distinction at same
    rw [h.templated, h'.templated, placement] at same
    have ids : e.accountId = e'.accountId := Option.some.inj same
    exact faultless.accountId?_injective h.accountId (ids ▸ h'.accountId)

/-- Which of two optional ids are there, and the ids that are, tell the two. -/
theorem reduceOption_pair_injective {a b a' b' : Option String} (first : a.isSome = a'.isSome)
    (second : b.isSome = b'.isSome) (same : [a, b].reduceOption = [a', b'].reduceOption) :
    a = a' ∧ b = b' := by
  cases a <;> cases a' <;> cases b <;> cases b' <;> simp_all [List.reduceOption]

/-- The connections of one peering are told apart by the ids in their keys. -/
theorem Faultless.accounts_eq_of_keyIds (faultless : t.Faultless)
    (pair : accounts ∈ t.registry.accountPairs near far)
    (pair' : accounts' ∈ t.registry.accountPairs near far)
    (h : t.Connects pathPrefix p near far accounts c)
    (h' : t.Connects pathPrefix p near far accounts' c') (same : c.keyIds = c'.keyIds) :
    accounts = accounts' := by
  obtain ⟨requester, accepter⟩ := reduceOption_pair_injective
    (h.requester.distinction_isSome.trans h'.requester.distinction_isSome.symm)
    (h.accepter.distinction_isSome.trans h'.accepter.distinction_isSome.symm) same
  obtain ⟨first, second⟩ := List.mem_product.mp pair
  obtain ⟨first', second'⟩ := List.mem_product.mp pair'
  exact Prod.ext
    (faultless.account_eq_of_distinction first first' h.requester h'.requester requester)
    (faultless.account_eq_of_distinction second second' h.accepter h'.accepter accepter)

/-! ## All connections -/

/-- Where a connection of a topology comes from. -/
theorem Expansion.made_of (h : t.Expansion pathPrefix cs) (hc : c ∈ cs) :
    ∃ p ∈ t.network.vpcPeerings, ∃ near far accounts, p.vpcs = [near.name, far.name] ∧
      t.vpc? near.name = some near ∧ t.vpc? far.name = some far ∧
      accounts ∈ t.registry.accountPairs near far ∧
      t.Connects pathPrefix p near far accounts c := by
  rw [h.order] at hc
  obtain ⟨p, hp, ofPeering⟩ := List.mem_flatMap.mp hc
  obtain ⟨near, far, names, foundNear, foundFar, -, connects⟩ := h.pairs p hp
  obtain ⟨accounts, pair, connected⟩ := exists_of_forall₂ connects ofPeering
  exact ⟨p, hp, near, far, accounts, names, foundNear, foundFar, pair, connected⟩

/-- No two connections have one identity. -/
theorem Expansion.identities_nodup (faultless : t.Faultless) (h : t.Expansion pathPrefix cs) :
    (cs.map Connection.identity).Nodup := by
  have ofPeering : ∀ p ∈ t.network.vpcPeerings, ∃ pairs : List (String × String), pairs.Nodup ∧
      (cs.filter (·.name == p.name)).map Connection.identity = pairs.map (Prod.mk p.name) := by
    intro p hp
    obtain ⟨near, far, -, -, -, distinct, connects⟩ := h.pairs p hp
    refine ⟨_, distinct, ?_⟩
    rw [← List.forall₂_eq_eq_eq, List.forall₂_map_left_iff, List.forall₂_map_right_iff]
    exact (connects.imp fun _ _ connected => connected.identity).flip
  rw [h.order, List.map_flatMap, List.nodup_flatMap]
  constructor
  · intro p hp
    obtain ⟨pairs, distinct, same⟩ := ofPeering p hp
    rw [same]
    exact distinct.map (Prod.mk_right_injective p.name)
  · refine (List.pairwise_map.mp faultless.peering_names_nodup).imp ?_
    intro p q differ
    refine List.disjoint_left.mpr fun identity ofP ofQ => ?_
    obtain ⟨c, hc, rfl⟩ := List.mem_map.mp ofP
    obtain ⟨c', hc', same⟩ := List.mem_map.mp ofQ
    have name := beq_iff_eq.mp (List.mem_filter.mp hc).2
    have name' := beq_iff_eq.mp (List.mem_filter.mp hc').2
    exact differ (name.symm.trans ((Prod.mk.inj same).1.symm.trans name'))

/-- A connection whose key has no more ids than that of another one has the other's key if and
only if it absorbs the other. -/
theorem Faultless.key_eq_iff_of_fewer (faultless : t.Faultless) (h : t.Expansion pathPrefix cs)
    (hc : c ∈ cs) (hc' : c' ∈ cs) (differ : c.identity ≠ c'.identity)
    (fewer : c.keyIds.length ≤ c'.keyIds.length) : c.key = c'.key ↔ c.Absorbs c' := by
  obtain ⟨p, hp, near, far, accounts, names, foundNear, foundFar, pair, connects⟩ := h.made_of hc
  obtain ⟨q, hq, near', far', accounts', names', foundNear', foundFar', pair', connects'⟩ :=
    h.made_of hc'
  rw [← String.toList_inj, connects.key_toList, connects'.key_toList,
    Key.append_behind_eq_iff (faultless.length_of_keyIds connects)
      (faultless.length_of_keyIds connects') fewer]
  constructor
  · rintro ⟨ids, name, more⟩
    refine ⟨ids, fun none => differ ?_, name, more⟩
    -- without further ids the names are the same, and so are the peering and its VPCs
    rw [none] at name more
    have sameName : p.name = q.name := by
      rw [← connects.name, ← connects'.name]
      exact String.toList_inj.mp (name.trans (List.append_nil _))
    obtain rfl := List.inj_on_of_nodup_map faultless.peering_names_nodup hp hq sameName
    obtain ⟨nearName, farName⟩ := List.cons.inj (names.symm.trans names')
    rw [nearName] at foundNear
    rw [(List.cons.inj farName).1] at foundFar
    obtain rfl := Option.some.inj (foundNear.symm.trans foundNear')
    obtain rfl := Option.some.inj (foundFar.symm.trans foundFar')
    rw [connects.identity, connects'.identity,
      faultless.accounts_eq_of_keyIds pair pair' connects connects' more.symm]
  · rintro ⟨ids, -, name, more⟩
    exact ⟨ids, name, more⟩

theorem Faultless.keysOf (faultless : t.Faultless) (h : t.Expansion pathPrefix cs)
    (hc : c ∈ cs) (hc' : c' ∈ cs) (differ : c.identity ≠ c'.identity) : KeysOf c c' where
  key := by
    rcases Nat.le_total c.keyIds.length c'.keyIds.length with fewer | fewer
    · rw [faultless.key_eq_iff_of_fewer h hc hc' differ fewer, or_iff_left]
      exact fun other => absurd other.fewer (Nat.not_lt.mpr fewer)
    · rw [eq_comm, faultless.key_eq_iff_of_fewer h hc' hc differ.symm fewer, or_iff_right]
      exact fun other => absurd other.fewer (Nat.not_lt.mpr fewer)
  published := by
    intro pathPrefix
    constructor
    · rintro ⟨p, hp, q, hq, scope, path⟩
      obtain ⟨side, rfl⟩ := PeeringPlan.mem_publicationsOf.mp hp
      obtain ⟨side', rfl⟩ := PeeringPlan.mem_publicationsOf.mp hq
      exact ⟨Published.path_vpcPeering_injective path, side, side', scope⟩
    · rintro ⟨key, side, side', scope⟩
      exact ⟨_, PeeringPlan.mem_publicationsOf.mpr ⟨side, rfl⟩, _,
        PeeringPlan.mem_publicationsOf.mpr ⟨side', rfl⟩, scope, by rw [key]⟩
  resource := by
    intro pathPrefix p hp q hq
    obtain ⟨side, rfl⟩ := PeeringPlan.mem_publicationsOf.mp hp
    obtain ⟨side', rfl⟩ := PeeringPlan.mem_publicationsOf.mp hq
    rfl

/-- Keys of connections do not repeat if and only if no connection absorbs another one. -/
theorem Faultless.keys_nodup_iff (faultless : t.Faultless) (h : t.Expansion pathPrefix cs)
    {part : List Connection} (some : part.Sublist cs) :
    (part.map (·.key)).Nodup ↔ ∀ c ∈ part, ∀ c' ∈ part, ¬ c.Absorbs c' := by
  have distinct := h.identities_nodup faultless
  have same : ∀ c ∈ part, ∀ c' ∈ part, c.identity = c'.identity → c = c' := fun c hc c' hc' =>
    List.inj_on_of_nodup_map distinct (some.subset hc) (some.subset hc')
  have keys {c c' : Connection} (hc : c ∈ part) (hc' : c' ∈ part)
      (differ : c.identity ≠ c'.identity) : KeysOf c c' :=
    faultless.keysOf h (some.subset hc) (some.subset hc') differ
  rw [List.nodup_map_iff_inj_on (some.nodup (.of_map _ distinct))]
  constructor
  · intro injective c hc c' hc' absorbs
    by_cases identity : c.identity = c'.identity
    · exact absorbs.ne (same c hc c' hc' identity)
    · exact absorbs.ne (injective c hc c' hc' ((keys hc hc' identity).key.mpr (.inl absorbs)))
  · intro free c hc c' hc' key
    by_contra differ
    have identity : c.identity ≠ c'.identity := fun identity =>
      differ (same c hc c' hc' identity)
    rcases (keys hc hc' identity).key.mp key with absorbs | absorbs
    · exact free c hc c' hc' absorbs
    · exact free c' hc' c hc absorbs

/-- No name of a peering ends as keys do, with an underscore and the id of an account. -/
def NamesFree (t : Topology) : Prop :=
  ∀ p ∈ t.network.vpcPeerings, ∀ a ∈ t.accounts, ¬ ('_' :: a.id.toList) <:+ p.name.toList

/-- Where no name ends as keys do, no connection absorbs another one. -/
theorem Faultless.not_absorbs (faultless : t.Faultless) (free : t.NamesFree)
    (h : t.Expansion pathPrefix cs) (hc : c ∈ cs) (hc' : c' ∈ cs) : ¬ c.Absorbs c' := by
  rintro ⟨ids, some, name, more⟩
  obtain ⟨p, hp, near, far, accounts, -, -, -, -, connects⟩ := h.made_of hc
  obtain ⟨q, -, near', far', accounts', -, -, -, -, connects'⟩ := h.made_of hc'
  obtain ⟨front, id, rfl⟩ := (List.eq_nil_or_concat' ids).resolve_left some
  have listed : id ∈ c'.keyIds := by
    rw [more]
    simp
  obtain ⟨account, known⟩ := connects'.known listed
  obtain ⟨a, ha, -, rfl⟩ := (Registry.accountId?_ofAccounts faultless.account_names_nodup).mp known
  apply free p hp a ha
  refine ⟨c'.name.toList ++ Key.behind front, ?_⟩
  rw [← connects.name, name, Key.behind_append, List.append_assoc]
  simp [Key.behind]

/-- The keys of the connections in a plan are those of the connections that the unit
requests. -/
theorem Expansion.planned_keys (h : t.Expansion t.settings.pathPrefix cs) {scope : Scope}
    {backend : Backend} {plan : Plan} {s : Run} (run : t.plan scope backend = .ok plan s) :
    plan.peering.connections.map (·.key) =
      (cs.filter (·.requester.scope == scope)).map (·.key) := by
  rw [← h.planned run, List.map_map]
  rfl

end Topology

/-- The connections of a valid topology differ in peering or accounts. Two of them have one key
if and only if one name is the other with account ids of the other's key behind it. In a plan the
keys do not repeat if and only if this is nowhere so, and it is nowhere so if no name ends with
the id of an account. -/
theorem connection_keys_distinct_iff {t : Topology} (valid : t.validate = .ok ())
    {cs : List Connection} (made : t.Expansion t.settings.pathPrefix cs) :
    (cs.map Connection.identity).Nodup ∧
    (∀ c ∈ cs, ∀ c' ∈ cs, c.identity ≠ c'.identity → KeysOf c c') ∧
    (∀ scope backend plan s, t.plan scope backend = .ok plan s →
      ((plan.peering.connections.map (·.key)).Nodup ↔
        ∀ c ∈ cs, c.requester.scope = scope → ∀ c' ∈ cs, c'.requester.scope = scope →
          ¬ c.Absorbs c')) ∧
    (t.NamesFree → (cs.map (·.key)).Nodup) := by
  have faultless := Topology.faultless_of_validate valid
  refine ⟨made.identities_nodup faultless, ?keys, ?plans, ?free⟩
  case keys =>
    intro c hc c' hc' differ
    exact faultless.keysOf made hc hc' differ
  case plans =>
    intro scope backend plan s run
    rw [made.planned_keys run, faultless.keys_nodup_iff made List.filter_sublist]
    simp only [List.mem_filter, beq_iff_eq, and_imp]
  case free =>
    intro free
    rw [faultless.keys_nodup_iff made (List.Sublist.refl cs)]
    intro c hc c' hc'
    exact faultless.not_absorbs free made hc hc'

/-- A peering with a VPC that is deployed to chosen accounts, and a peering whose name is the key
of the former's connection. -/
def Topology.sampleTwins : Topology where
  settings := sample.settings
  accounts :=
    [{ name := "Network", id := "111111111111", organizationalUnit := none },
      { name := "Workload", id := "222222222222", organizationalUnit := none }]
  network :=
    { vpcs :=
        [{ name := "App", region := "us-east-1", placement := .single "Workload"
           cidrs := ["10.0.0.0/16"], ipamPool := none },
          { name := "Shared", region := "us-east-1"
            placement := .targets { accounts := ["Network"] }
            cidrs := ["10.1.0.0/16"], ipamPool := none },
          { name := "Db", region := "us-east-1", placement := .single "Network"
            cidrs := ["10.2.0.0/16"], ipamPool := none }]
      vpcPeerings :=
        [{ name := "AppShared", vpcs := ["App", "Shared"] },
          { name := "AppShared_111111111111", vpcs := ["App", "Db"] }] }

/-- Validation lets connections of one key through. A plan has both, and when one resource of
that key has been created, its id is published for both, twice in each place. -/
theorem connection_keys_collide :
    Topology.sampleTwins.validate = .ok () ∧
    (∃ cs, Topology.sampleTwins.Expansion "accel" cs ∧ ∃ c ∈ cs, ∃ c' ∈ cs,
      c.name ≠ c'.name ∧ c.key = c'.key ∧
      ∃ p ∈ PeeringPlan.publicationsOf "accel" c, ∃ q ∈ PeeringPlan.publicationsOf "accel" c',
        p.scope = q.scope ∧ p.path = q.path) ∧
    ∃ plan s, Topology.sampleTwins.plan ⟨"Workload", "us-east-1"⟩
        (.fixed fun _ => .value "id") = .ok plan s ∧
      plan.peering.connections.map (fun c => (c.accepter.vpc, c.key)) =
        [("Shared", "AppShared_111111111111"), ("Db", "AppShared_111111111111")] ∧
      (plan.publishCalls (SortedMap.empty.insert "AppShared_111111111111" "pcx")).map
          (fun call => (call.scope.account, call.value)) =
        [("Workload", "pcx"), ("Network", "pcx"), ("Workload", "pcx"), ("Network", "pcx")] := by
  refine ⟨rfl, ?_, ?_⟩
  · obtain ⟨cs, expansion⟩ :=
      (Topology.faultless_of_validate (t := .sampleTwins) rfl).expansion "accel"
    obtain ⟨made, same, c, hc, c', hc', found⟩ :
        ∃ made, Topology.sampleTwins.connections Topology.sampleTwins.registry
            ⟨"Workload", "us-east-1"⟩ "accel" = .ok made ∧
          ∃ c ∈ made, ∃ c' ∈ made, c.name ≠ c'.name ∧ c.key = c'.key ∧
            ∃ p ∈ PeeringPlan.publicationsOf "accel" c,
              ∃ q ∈ PeeringPlan.publicationsOf "accel" c', p.scope = q.scope ∧ p.path = q.path :=
      ⟨_, rfl, by decide +kernel⟩
    obtain rfl : cs = made := Except.ok.inj ((expansion.made _).symm.trans same)
    exact ⟨cs, expansion, c, hc, c', hc', found⟩
  · have planned : (Plan.build (Topology.sampleTwins.vantage ⟨"Workload", "us-east-1"⟩
        (.fixed fun _ => .value "id")) .sampleTwins).comesTo (fun plan =>
          decide (plan.peering.connections.map (fun c => (c.accepter.vpc, c.key)) =
            [("Shared", "AppShared_111111111111"), ("Db", "AppShared_111111111111")] ∧
          (plan.publishCalls (SortedMap.empty.insert "AppShared_111111111111" "pcx")).map
              (fun call => (call.scope.account, call.value)) =
            [("Workload", "pcx"), ("Network", "pcx"), ("Workload", "pcx"), ("Network", "pcx")])) =
        true := by decide +kernel
    obtain ⟨plan, s, run, check⟩ := Lookup.exists_of_comesTo planned
    exact ⟨plan, s, run, of_decide_eq_true check⟩

/-- In the sample with a VPC in two accounts no name ends as keys do, so the two connections
have different keys, also in the plan that has both. -/
theorem connection_keys_distinct_iff_sample :
    Topology.sampleSpread.validate = .ok () ∧
      ∃ cs, Topology.sampleSpread.Expansion "accel" cs ∧ cs.length = 2 ∧ (cs.map (·.key)).Nodup ∧
        ∃ plan s, Topology.sampleSpread.plan ⟨"Workload", "us-east-1"⟩
            (.fixed fun _ => .value "id") = .ok plan s ∧
          plan.peering.connections.length = 2 ∧ (plan.peering.connections.map (·.key)).Nodup := by
  have valid : Topology.sampleSpread.validate = .ok () := rfl
  obtain ⟨cs, expansion⟩ := (Topology.faultless_of_validate valid).expansion "accel"
  obtain ⟨identities, keys, plans, free⟩ := connection_keys_distinct_iff valid expansion
  have distinct := free (by unfold Topology.NamesFree; decide +kernel)
  have made : (Topology.sampleSpread.connections Topology.sampleSpread.registry
      ⟨"Workload", "us-east-1"⟩ "accel").map List.length = .ok 2 := by decide +kernel
  rw [expansion.made] at made
  have planned : (Plan.build (Topology.sampleSpread.vantage ⟨"Workload", "us-east-1"⟩
      (.fixed fun _ => .value "id")) .sampleSpread).comesTo
        (fun plan => plan.peering.connections.length == 2) = true := by decide +kernel
  obtain ⟨plan, s, run, count⟩ := Lookup.exists_of_comesTo planned
  refine ⟨valid, cs, expansion, Except.ok.inj made, distinct, plan, s, run, beq_iff_eq.mp count, ?_⟩
  rw [plans _ _ plan s run]
  intro c hc _ c' hc' _ absorbs
  by_cases identity : c.identity = c'.identity
  · exact absorbs.ne (List.inj_on_of_nodup_map identities hc hc' identity)
  · have same := (keys c hc c' hc' identity).key.mpr (.inl absorbs)
    exact absorbs.ne (List.inj_on_of_nodup_map distinct hc hc' same)

end Interlink
