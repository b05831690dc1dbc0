import Interlink.Plan
import Interlink.Proofs.References
import Interlink.Proofs.UnitMap

/-!
# Why a map cannot be built

A unit of a valid topology builds its map unless a lookup fails, that is, unless
something has not been published or a question could not be answered. Two sorts
of misconfiguration remain, because validation does not look for them: a VPC that
is attached to a gateway of another region, and two attachments of the unit that
share a key (`Unmappable`, `map_fails_only_for`). The first one stops every unit,
also those that have nothing to do with the VPC, since the attachments are
described as a whole (`valid_but_unmappable`).

What a step can fail with is followed through the stages by `FailsOnly`. Unlike
`Lookup.Meets` it speaks of the error and not of the run.
-/

namespace Interlink

/-! ## Errors of steps -/

section Steps

variable {ε σ α β : Type} {P Q : ε → Prop} {x : EStateM ε σ α}

/-- Whatever a step fails with is of some sort. -/
def FailsOnly (P : ε → Prop) (x : EStateM ε σ α) : Prop :=
  ∀ ⦃s s' : σ⦄ ⦃e : ε⦄, x.run s = .error e s' → P e

theorem FailsOnly.mono (h : FailsOnly P x) (weaker : ∀ e, P e → Q e) : FailsOnly Q x :=
  fun _ _ e run => weaker e (h run)

theorem failsOnly_pure {a : α} : FailsOnly P (pure a : EStateM ε σ α) := by
  intro s s' e run
  exact nomatch run

theorem failsOnly_throw {e : ε} (h : P e) : FailsOnly P (throw e : EStateM ε σ α) := by
  intro s s' e' run
  cases run
  exact h

/-- Of two steps either may fail, the second one with what the first has come
to. -/
theorem FailsOnly.bind {f : α → EStateM ε σ β} (hx : FailsOnly P x)
    (hf : ∀ a s s', x.run s = .ok a s' → FailsOnly P (f a)) : FailsOnly P (x >>= f) := by
  intro s s' e run
  rcases run_bind_error.mp run with first | ⟨a, s₁, first, second⟩
  · exact hx first
  · exact hf a s s₁ first second

theorem failsOnly_foldlM_from {f : β → α → EStateM ε σ β} (inv : List α → β → Prop) :
    ∀ (done rest : List α) {b : β},
      (∀ before a after b, done ++ rest = before ++ a :: after → inv before b →
        FailsOnly P (f b a)) →
      (∀ before a b b' s s', a ∈ rest → inv before b → (f b a).run s = .ok b' s' →
        inv (before ++ [a]) b') →
      inv done b → FailsOnly P (rest.foldlM f b)
  | _, [], _, _, _, _ => failsOnly_pure
  | done, a :: rest, b, step, keeps, start => by
    rw [List.foldlM_cons]
    refine (step done a rest b rfl start).bind fun b' s s' run => ?_
    have next := keeps done a b b' s s' List.mem_cons_self start run
    refine failsOnly_foldlM_from inv (done ++ [a]) rest (fun before a' after c split => ?_)
      (fun before a' c c' s s' ha => keeps before a' c c' s s' (List.mem_cons_of_mem _ ha)) next
    exact step before a' after c (by rw [← split, List.append_assoc, List.singleton_append])

/-- A fold fails only with what one of its steps fails with, given what holds of
the elements before it. -/
theorem failsOnly_foldlM {f : β → α → EStateM ε σ β} (inv : List α → β → Prop) {as : List α}
    {b : β}
    (step : ∀ before a after b, as = before ++ a :: after → inv before b → FailsOnly P (f b a))
    (keeps : ∀ before a b b' s s', a ∈ as → inv before b → (f b a).run s = .ok b' s' →
      inv (before ++ [a]) b')
    (start : inv [] b) : FailsOnly P (as.foldlM f b) :=
  failsOnly_foldlM_from inv [] as step keeps start

/-- A fold whose steps fail only with what they may, whatever came before. -/
theorem failsOnly_foldlM_of_mem {f : β → α → EStateM ε σ β} {as : List α}
    (step : ∀ b, ∀ a ∈ as, FailsOnly P (f b a)) (b : β) : FailsOnly P (as.foldlM f b) := by
  refine failsOnly_foldlM (fun _ _ => True) (fun before a after b split _ => ?_)
    (fun _ _ _ _ _ _ _ _ _ => trivial) trivial
  exact step b a (by simp [split])

end Steps

theorem failsOnly_ofExcept {α : Type} {P : PlanError → Prop} {r : Except PlanError α}
    (h : ∀ e, r = .error e → P e) : FailsOnly P (Lookup.ofExcept r) := by
  cases r with
  | ok a => exact failsOnly_pure
  | error e => exact failsOnly_throw (h e rfl)

theorem failsOnly_refuse {P : PlanError → Prop} {refused : Bool} {e : PlanError}
    (h : refused = true → P e) : FailsOnly P (Lookup.refuse refused e) := by
  cases refused with
  | false => exact failsOnly_pure
  | true => exact failsOnly_throw (h rfl)

/-! ## Errors of lookups -/

/-- A value has not been published, or a question could not be answered. -/
inductive PlanError.OfLookup : PlanError → Prop
  | notFound {key : String} {scope : Scope} : OfLookup (.notFound key scope)
  | lookupFailed {key : String} {scope : Scope} {source : LookupError} :
      OfLookup (.lookupFailed key scope source)

namespace Vantage

variable {v : Vantage}

/-- An account whose id the unit knows. -/
def Member (v : Vantage) (account : String) : Prop :=
  (v.accounts.accountId? account).isSome = true

theorem askFor_fails {path : String} {owner : Scope} {q : Query} :
    FailsOnly PlanError.OfLookup (v.askFor path owner q) := by
  intro s s' e run
  obtain ⟨source, -, rfl, -⟩ := askFor_error run
  exact .lookupFailed

/-- An identity for a member is always found. -/
theorem identity_fails {P : PlanError → Prop} {purpose : RolePurpose} {owner : Scope}
    {role : Option String} (member : v.Member owner.account) :
    FailsOnly P (v.identity purpose owner role) := by
  intro s s' e run
  obtain ⟨id, found⟩ := Option.isSome_iff_exists.mp member
  exact nomatch found.symm.trans (identity_error run).1

theorem requireId_of_member {accounts : Registry} {account : String}
    (member : (accounts.accountId? account).isSome = true) (scope : Scope) :
    ∃ id, requireId accounts account scope = .ok id := by
  obtain ⟨id, found⟩ := Option.isSome_iff_exists.mp member
  exact ⟨id, by rw [requireId, found]⟩

theorem readRemote_fails {r : Reference} {owner : Scope} {role : Option String}
    (member : v.Member owner.account) :
    FailsOnly PlanError.OfLookup (v.readRemote r owner role) :=
  (identity_fails member).bind fun _ _ _ _ => askFor_fails

theorem fetch_fails {r : Reference} {owner : Scope} (member : v.Member owner.account) :
    FailsOnly PlanError.OfLookup (v.fetch r owner) := by
  unfold fetch
  split
  · exact askFor_fails
  · obtain ⟨id, known⟩ := requireId_of_member member v.caller
    unfold readShared
    rw [known]
    refine failsOnly_pure.bind fun id _ _ _ => askFor_fails.bind fun found _ _ _ => ?_
    cases found with
    | some value => exact failsOnly_pure
    | none => exact readRemote_fails member
  · exact readRemote_fails member
  · exact readRemote_fails member

theorem recalled_fails {key : RecallKey} {path : String} {fetch : Lookup (Option String)}
    (h : FailsOnly PlanError.OfLookup fetch) :
    FailsOnly PlanError.OfLookup (recalled key path fetch) := by
  intro s s' e run
  rcases (recalled_error run).2 with failed | ⟨-, rfl⟩
  · exact h failed
  · exact .notFound

/-- A value of a member is learned unless the lookup fails. -/
theorem learn_fails {p : Published} {owner : Scope} (member : v.Member owner.account) :
    FailsOnly PlanError.OfLookup (v.learn p owner) :=
  recalled_fails (fetch_fails member)

theorem resolveAttachment_fails {kind : AttachmentKind} {child name gatewayId : String}
    {owner : Scope} (member : v.Member owner.account) :
    FailsOnly PlanError.OfLookup (v.resolveAttachment kind child name gatewayId owner) := by
  unfold resolveAttachment
  dsimp only
  split
  · exact recalled_fails (fetch_fails member)
  · exact recalled_fails ((identity_fails member).bind fun _ _ _ _ => askFor_fails)

end Vantage

/-! ## Errors of a map -/

open UnitMap

namespace Topology

/-- What keeps a unit of a valid topology from building its map, lookups
apart. -/
inductive Unmappable (t : Topology) (scope : Scope) : Misconfiguration → Prop
  /-- A VPC is attached to a gateway of another region. -/
  | misplaced {fault : Misconfiguration} (misplaced : t.Misplaced fault) :
      Unmappable t scope fault
  /-- An attachment of the unit has the key of an earlier one. -/
  | sharedKey {ds before after : List Attachment} {a : Attachment}
      (described : t.attachments t.registry scope = .ok ds)
      (relevant : ds.filter (concerns scope) = before ++ a :: after)
      (taken : a.key ∈ before.map Attachment.key) :
      Unmappable t scope (.sharedAttachmentKey a.key)

/-- A lookup has failed, or the map of the unit cannot be built. -/
def MapFails (t : Topology) (scope : Scope) (e : PlanError) : Prop :=
  e.OfLookup ∨ ∃ fault, e = .misconfigured fault scope ∧ t.Unmappable scope fault

end Topology

namespace UnitMap

variable {v : Vantage} {t : Topology} {m : UnitMap}

theorem resolveGateway_fails (member : v.Member v.caller.account) (g : Gateway) :
    FailsOnly PlanError.OfLookup (resolveGateway v m g) :=
  (Vantage.learn_fails member).bind fun _ _ _ _ =>
    failsOnly_foldlM_of_mem (fun _ _ _ =>
      (Vantage.learn_fails member).bind fun _ _ _ _ => failsOnly_pure) _

theorem resolveRemoteRouteTables_fails {a : Attachment} (member : v.Member a.gatewayAccount) :
    FailsOnly PlanError.OfLookup (resolveRemoteRouteTables v t m a) := by
  unfold resolveRemoteRouteTables
  split
  · exact failsOnly_pure
  · refine failsOnly_foldlM_of_mem (fun m table _ => ?_) m
    unfold resolveRemoteRouteTable
    split
    · exact failsOnly_pure
    · exact (Vantage.learn_fails member).bind fun _ _ _ _ => failsOnly_pure

/-- An attachment is resolved unless a lookup fails or its key is taken. -/
theorem resolveAttachment_fails {P : PlanError → Prop} {a : Attachment}
    (lookup : ∀ e, PlanError.OfLookup e → P e)
    (shared : m.attachments.contains a.key = true →
      P (.misconfigured (.sharedAttachmentKey a.key) v.caller))
    (owner : v.Member a.owner.account) (gateway : v.Member a.gatewayAccount) :
    FailsOnly P (resolveAttachment v t m a) := by
  rw [resolveAttachment_eq]
  refine (failsOnly_refuse shared).bind fun _ _ _ _ => FailsOnly.bind ?_ fun m₁ _ _ _ => ?_
  · split
    · exact (resolveRemoteRouteTables_fails gateway).mono lookup
    · exact failsOnly_pure
  · refine (failsOnly_refuse fun _ => lookup _ .notFound).bind fun _ _ _ _ => ?_
    refine ((Vantage.resolveAttachment_fails owner).mono lookup).bind fun id _ _ _ => ?_
    cases m₁.gatewayId? a.gateway a.gatewayAccount with
    | some gatewayId => exact failsOnly_pure
    | none =>
      exact ((Vantage.learn_fails gateway).mono lookup).bind fun _ _ _ _ => failsOnly_pure

/-- The attachments that concern a unit are resolved in order, and each is in
the map from then on. -/
theorem resolveAttachments_fails {P : PlanError → Prop} {as : List Attachment}
    {gateways : List String} {tables : List (String × String)}
    (held : m.Holds v.caller gateways tables []) (lookup : ∀ e, PlanError.OfLookup e → P e)
    (shared : ∀ before a after, as = before ++ a :: after → a.key ∈ before.map Attachment.key →
      P (.misconfigured (.sharedAttachmentKey a.key) v.caller))
    (members : ∀ a ∈ as, v.Member a.owner.account ∧ v.Member a.gatewayAccount) :
    FailsOnly P (as.foldlM (resolveAttachment v t) m) := by
  refine failsOnly_foldlM (fun done (m : UnitMap) => ∃ gateways tables,
    m.Holds v.caller gateways tables done) ?_ ?_ ⟨_, _, held⟩
  · rintro before a after m split ⟨gateways, tables, held⟩
    obtain ⟨owner, gateway⟩ := members a (by simp [split])
    refine resolveAttachment_fails lookup (fun taken => ?_) owner gateway
    exact shared before a after split (held.hasAttachment.mp taken)
  · rintro before a m m' s s' _ ⟨gateways, tables, held⟩ run
    exact ⟨_, _, resolveAttachment_holds held run⟩

/-- The map of a unit is built unless a lookup fails or the topology has one of
two faults. -/
theorem build_fails (faultless : t.Faultless) {scope : Scope} {backend : Backend}
    (member : t.hasAccount scope.account = true) :
    FailsOnly (t.MapFails scope) (build (t.vantage scope backend) t) := by
  have known {account : String} (h : t.hasAccount account = true) :
      (t.vantage scope backend).Member account := Topology.accountId?_isSome.mpr h
  have lookup : ∀ e, PlanError.OfLookup e → t.MapFails scope e := fun _ h => .inl h
  unfold build
  refine ((failsOnly_foldlM_of_mem (fun m g _ => resolveGateway_fails (known member) g)
    _).mono lookup).bind fun m s s' run => ?_
  have held := ownGateways_holds run
  refine (failsOnly_ofExcept fun e h => ?_).bind fun ds s s' described => ?_
  · obtain ⟨fault, rfl, misplaced⟩ := faultless.attachments_error h
    exact .inr ⟨fault, rfl, .misplaced misplaced⟩
  · have described := (Lookup.run_ofExcept_ok.mp described).1
    refine (resolveAttachments_fails held lookup ?_ fun a ha => ?_).bind fun m _ _ _ => ?_
    · intro before a after split taken
      exact .inr ⟨_, rfl, .sharedKey described split taken⟩
    · have linked := faultless.linked described (List.mem_filter.mp ha).1
      exact ⟨known linked.owner, known (linked.gateway_account faultless)⟩
    · refine (failsOnly_foldlM_of_mem (fun m l _ => ?_) m).mono lookup
      exact (Vantage.learn_fails (known member)).bind fun _ _ _ _ => failsOnly_pure

end UnitMap

/-- A unit of a valid topology whose account is a member builds its map unless a
lookup fails, a VPC is attached to a gateway of another region, or two
attachments of the unit share a key. -/
theorem map_fails_only_for {t : Topology} (valid : t.validate = .ok ()) {scope : Scope}
    (member : t.hasAccount scope.account = true) {backend : Backend} {s s' : Run} {e : PlanError}
    (run : (UnitMap.build (t.vantage scope backend) t).run s = .error e s') :
    e.OfLookup ∨ ∃ fault, e = .misconfigured fault scope ∧ t.Unmappable scope fault :=
  UnitMap.build_fails (Topology.faultless_of_validate valid) member run

/-- A VPC with two attachments to one gateway. -/
def Topology.sampleAttachedTwice : Topology where
  settings := sample.settings
  accounts := sample.accounts
  network :=
    { gateways := [{ name := "Core", account := "Network", region := "us-east-1" }]
      vpcs :=
        [{ name := "App", region := "us-east-1", placement := .single "Workload"
           cidrs := ["10.0.0.0/16"], ipamPool := none
           attachments :=
             [{ name := "App-Core", gateway := ⟨"Core", "Network"⟩ },
               { name := "App-Core-2", gateway := ⟨"Core", "Network"⟩ }] }] }

theorem sampleAttachedTwice_fails :
    ∃ s, (UnitMap.build (Topology.sampleAttachedTwice.vantage ⟨"Workload", "us-east-1"⟩
        (.fixed fun _ => .value "id")) .sampleAttachedTwice).run {} =
      .error (.misconfigured (.sharedAttachmentKey "Core_Workload_App")
        ⟨"Workload", "us-east-1"⟩) s :=
  Lookup.exists_of_failsWith (by decide +kernel)

/-- Where a VPC is attached to a gateway twice, its unit finds the key taken. -/
theorem map_fails_only_for_sample :
    Topology.sampleAttachedTwice.validate = .ok () ∧
      Topology.sampleAttachedTwice.hasAccount "Workload" = true ∧
      ∃ s e, (UnitMap.build (Topology.sampleAttachedTwice.vantage ⟨"Workload", "us-east-1"⟩
          (.fixed fun _ => .value "id")) .sampleAttachedTwice).run {} = .error e s ∧
        ∃ fault, e = .misconfigured fault ⟨"Workload", "us-east-1"⟩ ∧
          Topology.sampleAttachedTwice.Unmappable ⟨"Workload", "us-east-1"⟩ fault := by
  obtain ⟨s, run⟩ := sampleAttachedTwice_fails
  refine ⟨rfl, rfl, s, _, run, ?_⟩
  rcases map_fails_only_for (t := .sampleAttachedTwice) rfl rfl run with lookup | unmappable
  · exact nomatch lookup
  · exact unmappable

/-- A VPC that is attached to a gateway of another region. -/
def Topology.sampleMisplaced : Topology where
  settings := sample.settings
  accounts := sample.accounts
  network :=
    { gateways := [{ name := "Core", account := "Network", region := "eu-west-1" }]
      vpcs :=
        [{ name := "App", region := "us-east-1", placement := .single "Workload"
           cidrs := ["10.0.0.0/16"], ipamPool := none
           attachments := [{ name := "App-Core", gateway := ⟨"Core", "Network"⟩ }] }] }

/-- A topology may be valid and keep a unit from building its map, though every
question is answered: a unit that the misplaced VPC does not concern, and the unit
of a VPC that is attached twice. -/
theorem valid_but_unmappable :
    (Topology.sampleMisplaced.validate = .ok () ∧
      Topology.sampleMisplaced.hasAccount "Network" = true ∧
      ∃ s, (UnitMap.build (Topology.sampleMisplaced.vantage ⟨"Network", "us-east-1"⟩
          (.fixed fun _ => .value "id")) .sampleMisplaced).run {} =
        .error (.misconfigured
          (.gatewayInOtherRegion "Core" "Network" "App" "us-east-1" "eu-west-1")
          ⟨"Network", "us-east-1"⟩) s) ∧
    Topology.sampleAttachedTwice.validate = .ok () ∧
      Topology.sampleAttachedTwice.hasAccount "Workload" = true ∧
      ∃ s, (UnitMap.build (Topology.sampleAttachedTwice.vantage ⟨"Workload", "us-east-1"⟩
          (.fixed fun _ => .value "id")) .sampleAttachedTwice).run {} =
        .error (.misconfigured (.sharedAttachmentKey "Core_Workload_App")
          ⟨"Workload", "us-east-1"⟩) s :=
  ⟨⟨rfl, rfl, Lookup.exists_of_failsWith (by decide +kernel)⟩, rfl, rfl,
    sampleAttachedTwice_fails⟩

end Interlink
