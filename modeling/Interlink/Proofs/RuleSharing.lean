import Interlink.Proofs.Deployment
import Interlink.Proofs.ForeignGateways
import Interlink.Proofs.Neighbourhood
import Interlink.Proofs.Stages
import Mathlib.Data.List.Infix

/-!
# Rules come from their shares

The stage that associates resolver rules makes one association for each rule that a VPC of
the unit lists, in the order of the description. It needs two ids for each, that of the VPC
and that of the rule. Either is remembered from before, or the stage has fetched it
(`Vantage.Resolved`): the unit reads in its own scope what belongs to its account, looks for
the rule of another account in the share of its owner, and reads the owner's store only right
after the share had nothing (`Vantage.ShareFirst`).

So a rule of the unit's account is never looked for elsewhere, and nothing is asked in another
region: the unit's VPCs are in its region, and a rule has to be in the region of the VPC that
lists it. What is asked holds of runs that fail as well. `Vantage.Associating` is the
invariant, relative to the run that the stage begins with; a step of the stage keeps it, and
leaves an association behind (`RuleAssociation.plan_associating`). Of that run it is assumed
only that its identities are those for their keys, as they are when a plan comes to its rules
(`Plan.vetted_of_build`).
-/

namespace Interlink

open Lookup

/-- The scope that owns a rule. -/
def ResolverRule.owner (rule : ResolverRule) : Scope := ⟨rule.account, rule.region⟩

/-- The region that a question goes to. -/
def Query.region : Query → String
  | .localValue scope _ => scope.region
  | .share _ _ _ region => region
  | .remoteValue i _ | .attachment i _ _ => i.region

/-- A question is about a rule: it looks for the rule in a share, or for what is published of
it. -/
def Query.SeeksRule (pathPrefix name : String) : Query → Prop
  | .share kind name' _ _ => kind = .resolverRule ∧ name' = name
  | .localValue _ path | .remoteValue _ path =>
    path = (Published.resolverRule name).path pathPrefix
  | .attachment .. => False

namespace Published

/-- Paths of rules tell the rules, whatever the names are. -/
theorem path_resolverRule_injective {name name' pathPrefix : String}
    (same : (resolverRule name).path pathPrefix = (resolverRule name').path pathPrefix) :
    name = name' := by
  have texts := congrArg String.toList same
  simp only [path_toList, segments, joined, List.flatMap_cons, List.flatMap_nil, List.append_nil,
    List.append_cancel_left_eq, List.append_cancel_right_eq, List.cons_append, List.cons.injEq,
    true_and] at texts
  exact String.toList_inj.mp texts

/-- No path is that of a VPC and of a rule. -/
theorem path_vpc_ne_resolverRule (vpc rule pathPrefix : String) :
    (Published.vpc vpc).path pathPrefix ≠ (resolverRule rule).path pathPrefix := by
  intro same
  have texts := congrArg String.toList same
  rw [path_toList, path_toList] at texts
  have behind := List.append_cancel_left texts
  rw [segments, segments, joined_cons_cons, joined_cons_cons] at behind
  exact absurd (segment_eq (by decide) (by decide) (List.cons.inj behind).2) (by decide)

end Published

/-! ## What has been exchanged since -/

namespace Run

/-- What has been exchanged since an earlier run. -/
def since (s start : Run) : List Exchange := s.exchanges.drop start.exchanges.length

variable {s s' start : Run}

@[simp] theorem since_self (s : Run) : s.since s = [] := List.drop_length

@[simp] theorem since_note (s start : Run) (key : RecallKey) :
    (s.note key).since start = s.since start := by
  rw [since, exchanges_note, since]

theorem since_exchange (earlier : start.exchanges <+: s.exchanges) (q : Query) (a : Answer) :
    (s.exchange q a).since start = s.since start ++ [⟨q, a⟩] := by
  rw [since, exchanges_exchange, List.drop_append_of_le_length earlier.length_le, since]

theorem exchanges_eq_since (earlier : start.exchanges <+: s.exchanges) :
    s.exchanges = start.exchanges ++ s.since start := by
  obtain ⟨rest, split⟩ := earlier
  rw [since, ← split, List.drop_left]

/-- Whatever has been exchanged since was asked after something. -/
theorem asked_of_mem_since {e : Exchange} (h : e ∈ s.since start) :
    ∃ past, past ++ [e] <+: s.since start := by
  obtain ⟨past, rest, split⟩ := List.append_of_mem h
  exact ⟨past, rest, by rw [split, List.append_assoc, List.singleton_append]⟩

theorem Continues.since (h : s.Continues s') (start : Run) : s.since start <+: s'.since start :=
  List.IsPrefix.drop h.exchanges _

end Run

namespace Vantage

variable {v : Vantage} {t : Topology} {s s' start : Run} {p q : Published} {owner : Scope}
  {value : String} {es es' : List Exchange}

/-! ## Where an id comes from -/

/-- How a value has been fetched, if the share of its owner comes first. -/
inductive ShareFirst (v : Vantage) (es : List Exchange) (p : Published) (owner : Scope)
    (value : String) : Prop
  /-- The unit has read it in its own scope. -/
  | own (mine : owner = v.caller)
      (read : ⟨.localValue owner (p.path v.pathPrefix), .value value⟩ ∈ es)
  /-- It was in the share of its owner. -/
  | shared {id : String} (other : owner.account ≠ v.caller.account)
      (member : v.accounts.accountId? owner.account = some id)
      (found : ⟨.share p.kind p.name id owner.region, .value value⟩ ∈ es)
  /-- The share had nothing, and right after that the unit has read the owner's store. -/
  | published {id : String} {i : Identity} (other : owner.account ≠ v.caller.account)
      (member : v.accounts.accountId? owner.account = some id)
      (identity : v.Canonical .parameterShare owner i)
      (read : [⟨.share p.kind p.name id owner.region, .missing⟩,
        ⟨.remoteValue i (p.path v.pathPrefix), .value value⟩] <:+: es)

theorem ShareFirst.mono (h : v.ShareFirst es p owner value) (more : es <+: es') :
    v.ShareFirst es' p owner value := by
  cases h with
  | own mine read => exact .own mine (more.subset read)
  | shared other member found => exact .shared other member (more.subset found)
  | published other member identity read =>
    exact .published other member identity (read.trans more.isInfix)

/-- What was read in the unit's own scope was read for everything that has the path. -/
theorem ShareFirst.of_path (h : v.ShareFirst es q v.caller value)
    (same : q.path v.pathPrefix = p.path v.pathPrefix) : v.ShareFirst es p v.caller value := by
  cases h with
  | own mine read => exact .own mine (same ▸ read)
  | shared other => exact absurd rfl other
  | published other => exact absurd rfl other

/-- A value is remembered, and if it was not remembered at the start, then it has been fetched
since. -/
structure Resolved (v : Vantage) (start s : Run) (p : Published) (owner : Scope)
    (value : String) : Prop where
  known : s.Knows ⟨p.path v.pathPrefix, owner⟩ value
  origin : start.Knows ⟨p.path v.pathPrefix, owner⟩ value ∨
    v.ShareFirst (s.since start) p owner value

theorem stable_resolved (v : Vantage) (start : Run) (p : Published) (owner : Scope)
    (value : String) : Run.Stable fun s => v.Resolved start s p owner value :=
  fun _ _ continues h =>
    ⟨continues.knows h.known, h.origin.imp_right (·.mono (continues.since start))⟩

/-- What the stage remembers: something of the unit itself, or the id of a rule. -/
inductive Gathered (v : Vantage) (es : List Exchange) : RecallKey → String → Prop
  | own {p : Published} {value : String} (fetched : v.ShareFirst es p v.caller value) :
      Gathered v es ⟨p.path v.pathPrefix, v.caller⟩ value
  | rule {name : String} {owner : Scope} {value : String}
      (fetched : v.ShareFirst es (.resolverRule name) owner value) :
      Gathered v es ⟨(Published.resolverRule name).path v.pathPrefix, owner⟩ value

theorem Gathered.mono {key : RecallKey} (h : v.Gathered es key value) (more : es <+: es') :
    v.Gathered es' key value := by
  cases h with
  | own fetched => exact .own (fetched.mono more)
  | rule fetched => exact .rule (fetched.mono more)

/-- What is remembered of the unit itself, or of a rule, has been fetched for it. -/
theorem Gathered.fetched (h : v.Gathered es ⟨p.path v.pathPrefix, owner⟩ value)
    (mine : owner = v.caller ∨ ∃ name, p = .resolverRule name) : v.ShareFirst es p owner value := by
  generalize same : (⟨p.path v.pathPrefix, owner⟩ : RecallKey) = key at h
  cases h with
  | own fetched =>
    obtain ⟨path, rfl⟩ := RecallKey.mk.inj same
    exact fetched.of_path path.symm
  | rule fetched =>
    obtain ⟨path, rfl⟩ := RecallKey.mk.inj same
    rcases mine with rfl | ⟨name, rfl⟩
    · exact fetched.of_path path.symm
    · rwa [Published.path_resolverRule_injective path]

/-! ## Questions -/

/-- A VPC of the unit lists a rule, and the rule is in the unit's region. -/
structure ListsRule (v : Vantage) (t : Topology) (rule : ResolverRule) : Prop where
  listed : ∃ vpc ∈ t.network.vpcs, RuleAssociation.concerns v vpc = true ∧
    rule.name ∈ vpc.resolverRules
  found : t.resolverRule? rule.name = some rule
  region : rule.region = v.caller.region

/-- A question that a unit may ask while it associates rules, after some exchanges. -/
inductive RuleQuestion (v : Vantage) (t : Topology) (past : List Exchange) : Query → Prop
  /-- The unit reads the id of one of its VPCs. -/
  | vpc {vpc : Vpc} (defined : vpc ∈ t.network.vpcs)
      (concerned : RuleAssociation.concerns v vpc = true) :
      RuleQuestion v t past (.localValue v.caller ((Published.vpc vpc.name).path v.pathPrefix))
  /-- The unit reads the id of a rule of its account. -/
  | own {rule : ResolverRule} (lists : v.ListsRule t rule)
      (mine : rule.account = v.caller.account) :
      RuleQuestion v t past
        (.localValue v.caller ((Published.resolverRule rule.name).path v.pathPrefix))
  /-- The unit looks for the rule of another account in the share of its owner. -/
  | shared {rule : ResolverRule} {id : String} (lists : v.ListsRule t rule)
      (other : rule.account ≠ v.caller.account)
      (member : v.accounts.accountId? rule.account = some id) :
      RuleQuestion v t past (.share .resolverRule rule.name id rule.region)
  /-- The share had nothing, and the unit reads the id in the store of the owner. -/
  | published {rule : ResolverRule} {id : String} {i : Identity} (lists : v.ListsRule t rule)
      (other : rule.account ≠ v.caller.account)
      (member : v.accounts.accountId? rule.account = some id)
      (missed : past.getLast? =
        some ⟨.share .resolverRule rule.name id rule.region, .missing⟩)
      (identity : v.Canonical .parameterShare rule.owner i) :
      RuleQuestion v t past
        (.remoteValue i ((Published.resolverRule rule.name).path v.pathPrefix))

theorem RuleQuestion.region {past : List Exchange} {q : Query} (h : v.RuleQuestion t past q) :
    q.region = v.caller.region := by
  cases h with
  | vpc => rfl
  | own => rfl
  | shared lists => exact lists.region
  | published lists _ _ _ identity =>
    exact (congrArg Scope.region identity.scope).trans lists.region

/-! ## The invariant -/

/-- A run in which the unit has associated some rules since the start: it has asked what it
may, every identity is the one for its key, and whatever was not remembered at the start has
been fetched since. -/
structure Associating (v : Vantage) (t : Topology) (start s : Run) : Prop where
  earlier : start.exchanges <+: s.exchanges
  asked : ∀ {past : List Exchange} {e : Exchange},
    past ++ [e] <+: s.since start → v.RuleQuestion t past e.query
  known : ∀ {key : RecallKey} {value : String}, s.Knows key value →
    start.Knows key value ∨ v.Gathered (s.since start) key value
  vetted : v.Vetted s

theorem associating_start (vetted : v.Vetted start) : v.Associating t start start where
  earlier := List.prefix_refl _
  asked h := by
    rw [Run.since_self, List.prefix_nil] at h
    exact absurd h (by simp)
  known := .inl
  vetted := vetted

theorem Associating.note (h : v.Associating t start s) (key : RecallKey) :
    v.Associating t start (s.note key) where
  earlier := by simpa using h.earlier
  asked hp := h.asked (by simpa using hp)
  known hk := by simpa using h.known (Run.knows_note.mp hk)
  vetted := h.vetted

theorem Associating.hit (h : v.Associating t start s) : v.Associating t start s.hit :=
  ⟨h.earlier, h.asked, h.known, h.vetted⟩

theorem Associating.enlist (h : v.Associating t start s) {key : HelperKey} {i : Identity}
    (canonical : v.Canonical key.purpose ⟨key.account, key.region⟩ i) :
    v.Associating t start (s.enlist key i) :=
  ⟨h.earlier, h.asked, h.known, h.vetted.enlist canonical⟩

theorem Associating.exchange (h : v.Associating t start s) {q : Query} {a : Answer}
    (question : v.RuleQuestion t (s.since start) q) :
    v.Associating t start (s.exchange q a) where
  earlier := h.earlier.trans (Run.Continues.exchange s q a).exchanges
  asked hp := by
    rw [Run.since_exchange h.earlier, List.prefix_concat_iff] at hp
    rcases hp with last | before
    · obtain ⟨rfl, same⟩ := List.append_inj' last rfl
      rwa [List.singleton_inj.mp same]
    · exact h.asked before
  known hk := (h.known (Run.knows_exchange.mp hk)).imp_right
    (·.mono ((Run.Continues.exchange s q a).since start))
  vetted := h.vetted

theorem Associating.remember (h : v.Associating t start s) {key : RecallKey}
    (gathered : v.Gathered (s.since start) key value) :
    v.Associating t start (s.remember key value) where
  earlier := h.earlier
  asked := h.asked
  known hk := by
    rcases Run.knows_remember.mp hk with known | ⟨-, rfl, rfl⟩
    · exact h.known known
    · exact .inr gathered
  vetted := h.vetted

/-! ## Asking -/

/-- A question that may be asked after what has been asked since the start: it is the next
exchange. -/
theorem askFor_associating {K : List Exchange → Prop} {path : String} {q : Query}
    (question : ∀ past, K past → v.RuleQuestion t past q) :
    Meets (fun s => v.Associating t start s ∧ K (s.since start)) (v.askFor path owner q)
      (fun found s => v.Associating t start s ∧
        ∃ past, K past ∧ s.since start = past ++ [⟨q, .ofOption found⟩])
      (v.Associating t start) := by
  have asked (s : Run) (a : Answer) (hs : v.Associating t start s ∧ K (s.since start)) :
      v.Associating t start (s.exchange q a) :=
    hs.1.exchange (question _ hs.2)
  refine meets_askFor (fun s x hs => ⟨asked s _ hs, _, hs.2, ?_⟩)
    (fun s hs => ⟨asked s _ hs, _, hs.2, ?_⟩) fun s e hs => asked s _ hs
  · exact Run.since_exchange hs.1.earlier q (.value x)
  · exact Run.since_exchange hs.1.earlier q .missing

/-- What a way to fetch a value promises: the value has been fetched. -/
def Gathers (v : Vantage) (t : Topology) (start : Run) (p : Published) (owner : Scope)
    (x : Lookup (Option String)) : Prop :=
  Meets (v.Associating t start) x
    (fun found s => v.Associating t start s ∧
      ∀ value, found = some value → v.ShareFirst (s.since start) p owner value)
    (v.Associating t start)

/-- A value of the unit is read in its own scope. -/
theorem fetch_own_gathers
    (question : ∀ past, v.RuleQuestion t past (.localValue v.caller (p.path v.pathPrefix))) :
    v.Gathers t start p v.caller (v.fetch (p.reference v.pathPrefix) v.caller) := by
  rw [fetch_eq, if_pos rfl]
  refine (askFor_associating (K := fun _ => True) fun past _ => question past).weaken
    (fun _ hs => ⟨hs, trivial⟩) (fun found s ⟨hs, past, _, asked⟩ => ⟨hs, ?_⟩) fun _ hs => hs
  rintro value rfl
  refine .own rfl ?_
  rw [asked]
  exact List.mem_append_right _ (List.mem_singleton_self _)

/-- A rule of another account is looked for in the share of its owner, and then in the owner's
store. -/
theorem fetch_rule_gathers {rule : ResolverRule} (lists : v.ListsRule t rule)
    (other : rule.account ≠ v.caller.account) :
    v.Gathers t start (.resolverRule rule.name) rule.owner
      (v.fetch ((Published.resolverRule rule.name).reference v.pathPrefix) rule.owner) := by
  have elsewhere : rule.owner ≠ v.caller := fun same => other (congrArg Scope.account same)
  have share : v.looksInShare ((Published.resolverRule rule.name).reference v.pathPrefix).kind
      rule.owner = true :=
    looksInShare_iff.mpr ⟨other, lists.region, rfl⟩
  rw [fetch_eq, if_neg elsewhere, if_pos share]
  refine Meets.bind
    (fun id s => v.accounts.accountId? rule.account = some id ∧ v.Associating t start s)
    (meets_ofExcept (fun id found s hs => ⟨requireId_ok found, hs⟩) fun _ hs => hs) fun id =>
      Meets.assuming fun member => ?_
  refine Meets.bind _ ((askFor_associating (K := fun _ => True)
    fun past _ => .shared lists other member).weaken (fun _ hs => ⟨hs, trivial⟩)
      (fun _ _ hs => hs) fun _ hs => hs) fun found => ?_
  cases found with
  | some value =>
    refine meets_pure fun s ⟨hs, past, _, asked⟩ => ⟨hs, ?_⟩
    rintro _ ⟨rfl⟩
    refine .shared other member ?_
    rw [asked]
    exact List.mem_append_right _ (List.mem_singleton_self _)
  | none =>
    -- the share's answer is the last exchange when the owner's store is read
    have role : some (RolePurpose.parameterShare.roleName v.pathPrefix rule.owner.region) =
        v.roleFor .parameterShare rule.owner := (roleFor_other other _).symm
    have identified := identity_vetted
      (J := fun s => v.Associating t start s ∧ (s.since start).getLast? =
        some ⟨.share .resolverRule rule.name id rule.region, .missing⟩)
      (fun _ hs => hs.1.vetted) (fun _ _ _ hs new => ⟨hs.1.enlist new, hs.2⟩) role
    refine Meets.bind _ (identified.weaken (fun s ⟨hs, past, _, asked⟩ => ⟨hs, ?_⟩)
      (fun i s hs => ⟨hs.2, hs.1⟩) fun _ hs => hs.1) fun i => Meets.assuming fun identity => ?_
    · rw [asked, List.getLast?_concat]
      rfl
    · refine (askFor_associating fun past missed =>
        .published lists other member missed identity).mono fun found s ⟨hs, past, missed, asked⟩ =>
          ⟨hs, ?_⟩
      rintro value rfl
      refine .published other member identity ?_
      obtain ⟨before, rfl⟩ := List.getLast?_eq_some_iff.mp missed
      rw [asked, List.append_assoc]
      exact List.infix_append' before _ []

/-- A value that is learned is resolved. -/
theorem learn_associating (fetched : v.Gathers t start p owner
      (v.fetch (p.reference v.pathPrefix) owner))
    (mine : owner = v.caller ∨ ∃ name, p = .resolverRule name) :
    Meets (v.Associating t start) (v.learn p owner)
      (fun value s => v.Associating t start s ∧ v.Resolved start s p owner value)
      (v.Associating t start) := by
  have remembered : Meets (v.Associating t start) (v.learn p owner)
      (fun value s => v.Associating t start s ∧ s.Knows ⟨p.path v.pathPrefix, owner⟩ value)
      (v.Associating t start) := by
    refine meets_recalled (fun _ hs => hs.note _) (fun _ hs => hs.hit) fetched
      (fun s value hs => hs.1.remember ?_) fun _ hs => hs.1
    rcases mine with rfl | ⟨name, rfl⟩
    · exact .own (hs.2 value rfl)
    · exact .rule (hs.2 value rfl)
  exact remembered.mono fun value s hs =>
    ⟨hs.1, hs.2, (hs.1.known hs.2).imp_right fun gathered => gathered.fetched mine⟩

/-! ## Associations -/

/-- The association of a VPC with a rule that it lists. -/
structure Associates (v : Vantage) (t : Topology) (start s : Run) (vpc : Vpc) (name : String)
    (a : RuleAssociation) : Prop where
  ofVpc : a.vpc = vpc.name
  ofRule : a.rule = name
  key : a.key = Key.resolverRuleAssociation name vpc.name v.caller.account
  logicalId : a.logicalId = vpc.name ++ "-" ++ name ++ "-rule-association"
  scope : a.scope = v.caller
  /-- The id of the VPC is the unit's own. -/
  vpcId : v.Resolved start s (.vpc vpc.name) v.caller a.vpcId
  /-- The id of the rule is that of its owner, in the unit's region. -/
  ruleId : ∃ rule, t.resolverRule? name = some rule ∧ rule.region = v.caller.region ∧
    v.Resolved start s (.resolverRule name) rule.owner a.ruleId

theorem stable_associates (v : Vantage) (t : Topology) (start : Run) (vpc : Vpc) (name : String)
    (a : RuleAssociation) : Run.Stable fun s => v.Associates t start s vpc name a := by
  rintro s s' continues ⟨named, rule, key, logicalId, scope, vpcId, r, found, region, ruleId⟩
  exact ⟨named, rule, key, logicalId, scope, stable_resolved _ _ _ _ _ continues vpcId, r, found,
    region, stable_resolved _ _ _ _ _ continues ruleId⟩

end Vantage

namespace RuleAssociation

variable {v : Vantage} {t : Topology} {start : Run} {vpc : Vpc}

/-- A rule that a VPC may be associated with is the first of its name, and it is in the VPC's
region. -/
theorem requireRule_eq_ok {scope : Scope} {name : String} {rule : ResolverRule} :
    requireRule t scope vpc name = .ok rule ↔
      t.resolverRule? name = some rule ∧ rule.region = vpc.region := by
  unfold requireRule
  cases t.resolverRule? name with
  | none => simp
  | some other =>
    simp only [Option.some.injEq]
    split
    · next here =>
      rw [Except.ok.injEq]
      exact ⟨fun same => ⟨same, same ▸ here⟩, And.left⟩
    · next elsewhere =>
      refine iff_of_false (fun h => nomatch h) ?_
      rintro ⟨rfl, here⟩
      exact elsewhere here

/-- The stage learns the id of a rule that a VPC of the unit lists. -/
theorem learn_rule_associating {rule : ResolverRule} (lists : v.ListsRule t rule) :
    Meets (v.Associating t start) (v.learn (.resolverRule rule.name) rule.owner)
      (fun id s => v.Associating t start s ∧
        v.Resolved start s (.resolverRule rule.name) rule.owner id)
      (v.Associating t start) := by
  refine Vantage.learn_associating ?_ (.inr ⟨rule.name, rfl⟩)
  by_cases mine : rule.account = v.caller.account
  · have here : rule.owner = v.caller := by
      rw [ResolverRule.owner, mine, lists.region]
    rw [here]
    exact Vantage.fetch_own_gathers fun _ => .own lists mine
  · exact Vantage.fetch_rule_gathers lists mine

section Stage

variable (start : Run) (defined : vpc ∈ t.network.vpcs) (concerned : concerns v vpc = true)
include defined concerned

theorem plan_associating (vpcId : String) {name : String} (listed : name ∈ vpc.resolverRules) :
    Meets (fun s => v.Associating t start s ∧
        v.Resolved start s (.vpc vpc.name) v.caller vpcId)
      (plan v t vpc vpcId name)
      (fun a s => v.Associating t start s ∧ v.Associates t start s vpc name a)
      (v.Associating t start) := by
  have here : vpc.region = v.caller.region := by
    simp only [concerns, Bool.and_eq_true, beq_iff_eq] at concerned
    exact concerned.1.2
  refine Meets.bind (fun rule s => (t.resolverRule? name = some rule ∧ rule.region = vpc.region) ∧
      v.Associating t start s ∧ v.Resolved start s (.vpc vpc.name) v.caller vpcId)
    (meets_ofExcept (fun rule required s hs => ⟨requireRule_eq_ok.mp required, hs⟩)
      fun _ hs => hs.1) fun rule => Meets.assuming fun required => ?_
  obtain ⟨found, region⟩ := required
  obtain rfl : rule.name = name := (Topology.resolverRule?_some found).2
  have lists : v.ListsRule t rule :=
    ⟨⟨vpc, defined, concerned, listed⟩, found, region.trans here⟩
  refine ((learn_rule_associating lists).and_stable
    (Vantage.stable_resolved v start (.vpc vpc.name) v.caller vpcId)).bind _ fun ruleId => ?_
  refine meets_pure fun s resolved => ?_
  obtain ⟨⟨hs, ruleId⟩, vpcId⟩ := resolved
  exact ⟨hs, rfl, rfl, rfl, rfl, rfl, vpcId, rule, found, lists.region, ruleId⟩

theorem planRules_associating (vpcId : String) :
    ∀ {names : List String}, names ⊆ vpc.resolverRules →
      Meets (fun s => v.Associating t start s ∧
          v.Resolved start s (.vpc vpc.name) v.caller vpcId)
        (planRules v t vpc vpcId names)
        (fun as s => v.Associating t start s ∧
          List.Forall₂ (v.Associates t start s vpc) names as)
        (v.Associating t start)
  | [], _ => meets_pure fun _ hs => ⟨hs.1, .nil⟩
  | name :: rest, listed => by
    obtain ⟨first, others⟩ := List.cons_subset.mp listed
    have one := (plan_associating start defined concerned vpcId first).and_stable
      (Vantage.stable_resolved v start (.vpc vpc.name) v.caller vpcId)
    refine (one.weaken (fun s hs => ⟨hs, hs.2⟩) (fun _ _ hs => hs) fun _ hs => hs).bind _
      fun a => ?_
    have more := (planRules_associating vpcId others).and_stable
      (Vantage.stable_associates v t start vpc name a)
    refine (more.weaken (fun s ⟨⟨hs, associates⟩, vpcId⟩ => ⟨⟨hs, vpcId⟩, associates⟩)
      (fun _ _ hs => hs) fun _ hs => hs).bind _ fun as => ?_
    exact meets_pure fun s ⟨⟨hs, associated⟩, associates⟩ => ⟨hs, .cons associates associated⟩

end Stage

/-- The rules that some VPCs list, each with the VPC. -/
def entries (vpcs : List Vpc) : List (Vpc × String) :=
  vpcs.flatMap fun vpc => vpc.resolverRules.map (vpc, ·)

/-- A VPC that lists no rules makes no difference. -/
theorem entries_listing (vpcs : List Vpc) :
    entries (vpcs.filter fun vpc => !vpc.resolverRules.isEmpty) = entries vpcs := by
  induction vpcs with
  | nil => rfl
  | cons vpc rest ih =>
    unfold entries at ih ⊢
    cases lists : vpc.resolverRules with
    | nil => simp [lists, ih]
    | cons name names => simp [lists, ih]

theorem planVpcs_associating :
    ∀ {vpcs : List Vpc}, (∀ vpc ∈ vpcs, vpc ∈ t.network.vpcs ∧ concerns v vpc = true) →
      Meets (v.Associating t start) (planVpcs v t vpcs)
        (fun as s => v.Associating t start s ∧
          List.Forall₂ (fun e => v.Associates t start s e.1 e.2) (entries vpcs) as)
        (v.Associating t start)
  | [], _ => meets_pure fun _ hs => ⟨hs, .nil⟩
  | vpc :: rest, own => by
    obtain ⟨⟨defined, concerned⟩, others⟩ := List.forall_mem_cons.mp own
    have learned : Meets (v.Associating t start) (v.learn (.vpc vpc.name) v.caller) _ _ :=
      Vantage.learn_associating (Vantage.fetch_own_gathers fun _ => .vpc defined concerned)
        (.inl rfl)
    refine learned.bind _ fun vpcId => ?_
    refine (planRules_associating start defined concerned vpcId (List.Subset.refl _)).bind _
      fun as => ?_
    have stable : Run.Stable fun s =>
        List.Forall₂ (v.Associates t start s vpc) vpc.resolverRules as :=
      fun _ _ continues associated => associated.imp fun _ _ associates =>
        Vantage.stable_associates _ _ _ _ _ _ continues associates
    refine ((planVpcs_associating others).and_stable stable).bind _ fun bs => ?_
    refine meets_pure fun s ⟨⟨hs, more⟩, associated⟩ => ⟨hs, ?_⟩
    have ofVpc : List.Forall₂ (fun e : Vpc × String => v.Associates t start s e.1 e.2)
        (vpc.resolverRules.map (vpc, ·)) as := List.forall₂_map_left_iff.mpr associated
    exact List.rel_append ofVpc more

theorem build_associating (v : Vantage) (t : Topology) (start : Run) :
    Meets (v.Associating t start) (build v t)
      (fun as s => v.Associating t start s ∧ List.Forall₂
        (fun e => v.Associates t start s e.1 e.2) (entries (t.network.vpcs.filter (concerns v))) as)
      (v.Associating t start) :=
  planVpcs_associating fun _ hv => List.mem_filter.mp hv

end RuleAssociation

/-! ## The whole -/

namespace Topology

variable {t : Topology} {scope : Scope}

/-- The VPCs that are deployed to a scope. -/
def deployedVpcs (t : Topology) (scope : Scope) : List Vpc :=
  t.network.vpcs.filter fun vpc =>
    vpc.region = scope.region ∧ scope.account ∈ t.registry.vpcAccounts vpc

/-- The rules that concern a unit are those that the VPCs deployed to it list. -/
theorem entries_concerned (t : Topology) (scope : Scope) (backend : Backend) :
    RuleAssociation.entries
        (t.network.vpcs.filter (RuleAssociation.concerns (t.vantage scope backend))) =
      RuleAssociation.entries (t.deployedVpcs scope) := by
  have concerned : t.network.vpcs.filter (RuleAssociation.concerns (t.vantage scope backend)) =
      (t.deployedVpcs scope).filter fun vpc => !vpc.resolverRules.isEmpty := by
    rw [deployedVpcs, List.filter_filter]
    refine List.filter_congr fun vpc _ => ?_
    rw [Bool.eq_iff_iff, concerns_vantage, Bool.and_eq_true, Bool.not_eq_true',
      List.isEmpty_eq_false_iff, decide_eq_true_eq, eq_comm (a := scope.region)]
  rw [concerned, RuleAssociation.entries_listing]

/-- Names of rules do not repeat. -/
theorem Faultless.rule_names_nodup (h : t.Faultless) :
    (t.network.resolverRules.map (·.name)).Nodup :=
  (resolverRuleFaults_eq_nil_iff.mp h.resolverRules).1.1

end Topology

namespace Vantage

variable {v : Vantage} {t : Topology} {past : List Exchange} {q : Query} {rule : ResolverRule}

/-- A rule that is listed is the only one of its name. -/
theorem ListsRule.eq_of_name {listed : ResolverRule} (lists : v.ListsRule t listed)
    (faultless : t.Faultless) (defined : rule ∈ t.network.resolverRules)
    (same : listed.name = rule.name) : listed = rule :=
  List.inj_on_of_nodup_map faultless.rule_names_nodup (Topology.resolverRule?_some lists.found).1
    defined same

section Seeks

variable (faultless : t.Faultless) (defined : rule ∈ t.network.resolverRules)
  (question : v.RuleQuestion t past q) (seeks : q.SeeksRule v.pathPrefix rule.name)
include faultless defined question seeks

/-- A question about a rule of the unit's account is a read in the unit's own scope. -/
theorem RuleQuestion.of_own (mine : rule.account = v.caller.account) :
    q = .localValue v.caller ((Published.resolverRule rule.name).path v.pathPrefix) := by
  cases question with
  | vpc => exact congrArg _ seeks
  | own => exact congrArg _ seeks
  | shared lists other =>
    rw [lists.eq_of_name faultless defined seeks.2] at other
    exact absurd mine other
  | published lists other =>
    have same := Published.path_resolverRule_injective seeks
    rw [lists.eq_of_name faultless defined same] at other
    exact absurd mine other

/-- A question about a rule of another account goes to the share of its owner, or to the owner's
store right after the share had nothing. -/
theorem RuleQuestion.of_other (other : rule.account ≠ v.caller.account) :
    ∃ id, v.accounts.accountId? rule.account = some id ∧
      (q = .share .resolverRule rule.name id v.caller.region ∨
        past.getLast? = some ⟨.share .resolverRule rule.name id v.caller.region, .missing⟩ ∧
          ∃ i, v.Canonical .parameterShare ⟨rule.account, v.caller.region⟩ i ∧
            q = .remoteValue i ((Published.resolverRule rule.name).path v.pathPrefix)) := by
  cases question with
  | vpc => exact absurd seeks (Published.path_vpc_ne_resolverRule _ _ _)
  | own lists mine =>
    have same := Published.path_resolverRule_injective seeks
    rw [lists.eq_of_name faultless defined same] at mine
    exact absurd mine other
  | shared lists _ member =>
    obtain rfl := lists.eq_of_name faultless defined seeks.2
    exact ⟨_, member, .inl (by rw [lists.region])⟩
  | published lists _ member missed identity =>
    obtain rfl := lists.eq_of_name faultless defined (Published.path_resolverRule_injective seeks)
    rw [ResolverRule.owner, lists.region] at identity
    rw [lists.region] at missed
    exact ⟨_, member, .inr ⟨missed, _, identity, rfl⟩⟩

end Seeks

/-- What a unit has asked while it associated rules, from one run to another. -/
structure AsksForRules (v : Vantage) (t : Topology) (s s' : Run) : Prop where
  exchanges : s'.exchanges = s.exchanges ++ s'.since s
  questions : ∀ past e, past ++ [e] <+: s'.since s → v.RuleQuestion t past e.query
  /-- Nothing is asked in another region. -/
  region : ∀ e ∈ s'.since s, e.query.region = v.caller.region
  /-- A rule of the unit's account is read in the unit's own scope only. -/
  own : ∀ rule ∈ t.network.resolverRules, rule.account = v.caller.account →
    ∀ e ∈ s'.since s, e.query.SeeksRule v.pathPrefix rule.name →
      e.query = .localValue v.caller ((Published.resolverRule rule.name).path v.pathPrefix)
  /-- A rule of another account is looked for in its share, and read under the identity of its
  owner only right after the share had nothing. -/
  other : ∀ rule ∈ t.network.resolverRules, rule.account ≠ v.caller.account →
    ∀ past e, past ++ [e] <+: s'.since s → e.query.SeeksRule v.pathPrefix rule.name →
      ∃ id, v.accounts.accountId? rule.account = some id ∧
        (e.query = .share .resolverRule rule.name id v.caller.region ∨
          past.getLast? = some ⟨.share .resolverRule rule.name id v.caller.region, .missing⟩ ∧
            ∃ i, v.Canonical .parameterShare ⟨rule.account, v.caller.region⟩ i ∧
              e.query = .remoteValue i ((Published.resolverRule rule.name).path v.pathPrefix))

theorem Associating.asksForRules {s s' : Run} (h : v.Associating t s s')
    (faultless : t.Faultless) : v.AsksForRules t s s' where
  exchanges := Run.exchanges_eq_since h.earlier
  questions _ _ := h.asked
  region e he := by
    obtain ⟨past, asked⟩ := Run.asked_of_mem_since he
    exact (h.asked asked).region
  own rule defined mine e he seeks := by
    obtain ⟨past, asked⟩ := Run.asked_of_mem_since he
    exact (h.asked asked).of_own faultless defined seeks mine
  other rule defined other past e asked seeks :=
    (h.asked asked).of_other faultless defined seeks other

/-- Whatever a unit learns, its identities are those for their keys. -/
theorem learn_vetted (p : Published) (owner : Scope) : Keeps v.Vetted (v.learn p owner) :=
  (learn_inStep (b := v.backend)
    ⟨fun _ _ => rfl, fun _ _ _ _ => rfl, fun _ _ _ _ _ _ => rfl, fun _ _ _ _ _ => rfl⟩ p).keeps

theorem resolveAttachment_vetted (kind : AttachmentKind) (child name gatewayId : String)
    (owner : Scope) : Keeps v.Vetted (v.resolveAttachment kind child name gatewayId owner) :=
  (resolveAttachment_inStep (b := v.backend)
    ⟨fun _ _ => rfl, fun _ _ _ _ => rfl, fun _ _ _ _ _ _ => rfl, fun _ _ _ _ _ => rfl⟩
    kind child name gatewayId).keeps

end Vantage

/-- When a plan comes to its rules, every identity is the one for its key. -/
theorem Plan.vetted_of_build {v : Vantage} {t : Topology} {p : Plan} {s' : Run}
    (run : (build v t).run {} = .ok p s') :
    ∃ s, v.Vetted s ∧ (RuleAssociation.build v t).run s = .ok p.ruleAssociations s' := by
  obtain ⟨m, s₁, edges, routes, peering, s₂, rules, mapped, -, -, built, associated, rfl⟩ :=
    Plan.build_ok run
  have map : Keeps v.Vetted (UnitMap.build v t) :=
    UnitMap.build_closed (closed_keeps _) (fun _ _ _ => Vantage.learn_vetted ..)
      (fun _ _ _ _ _ => Vantage.resolveAttachment_vetted ..) fun _ _ => keeps_throw
  have peerings : Keeps v.Vetted (PeeringPlan.build v t) :=
    PeeringPlan.build_keeps (fun _ _ _ => Vantage.learn_vetted ..) fun _ _ hs => hs
  exact ⟨s₂, (peerings.ok (map.ok (Vantage.vetted_start v) mapped).2 built).2, associated⟩

/-- In a valid topology the associations of a unit are those of its VPCs with the rules that they
list, in the order of the description, each with the id of the VPC and with that of the rule: the
one in the share of its owner, or else the one that the owner has published. What is asked for
this holds of a unit whose rules cannot be associated as well. -/
theorem rules_associated {t : Topology} (valid : t.validate = .ok ()) (scope : Scope)
    (backend : Backend) {s : Run} (vetted : (t.vantage scope backend).Vetted s) :
    (∀ as s', (RuleAssociation.build (t.vantage scope backend) t).run s = .ok as s' →
      List.Forall₂ (fun e => (t.vantage scope backend).Associates t s s' e.1 e.2)
        (RuleAssociation.entries (t.deployedVpcs scope)) as ∧
      (t.vantage scope backend).AsksForRules t s s') ∧
    ∀ e s', (RuleAssociation.build (t.vantage scope backend) t).run s = .error e s' →
      (t.vantage scope backend).AsksForRules t s s' := by
  have faultless := Topology.faultless_of_validate valid
  have stage := RuleAssociation.build_associating (t.vantage scope backend) t s
  have start := Vantage.associating_start (t := t) vetted
  constructor
  · intro as s' run
    obtain ⟨-, kept, associated⟩ := stage.ok start run
    rw [t.entries_concerned scope backend] at associated
    exact ⟨associated, kept.asksForRules faultless⟩
  · intro e s' run
    exact (stage.error start run).2.asksForRules faultless

/-- Everything is published, and shares cannot be looked at. -/
def sharesFail : Query → Answer
  | .share .. => .failed (.throttled 1)
  | _ => .value "id"

/-- A unit whose VPC lists a rule of another account reads the id of the VPC. Then it looks for the
rule in the share of its owner, and reads the owner's store where nothing is shared. Where the
share cannot be looked at, this is the last question. -/
theorem rules_associated_sample :
    (∃ as s, (RuleAssociation.build (Topology.sample.vantage ⟨"Workload", "us-east-1"⟩
        (.fixed publishedOnly)) .sample).run {} = .ok as s ∧
      as.map (·.key) = ["corp_App_Workload"] ∧
      (s.since {}).map (·.query) =
        [.localValue ⟨"Workload", "us-east-1"⟩ "/accel/network/vpc/App/id",
          .share .resolverRule "corp" "111111111111" "us-east-1",
          .remoteValue ⟨"Network", "111111111111", "us-east-1",
            some "accel-CrossAccountParameterShare-us-east-1"⟩
            "/accel/network/route53Resolver/rule/corp/id"] ∧
      List.Forall₂ (fun e => (Topology.sample.vantage ⟨"Workload", "us-east-1"⟩
          (.fixed publishedOnly)).Associates .sample {} s e.1 e.2)
        (RuleAssociation.entries (Topology.sample.deployedVpcs ⟨"Workload", "us-east-1"⟩)) as ∧
      (Topology.sample.vantage ⟨"Workload", "us-east-1"⟩ (.fixed publishedOnly)).AsksForRules
        .sample {} s) ∧
    ∃ e s, (RuleAssociation.build (Topology.sample.vantage ⟨"Workload", "us-east-1"⟩
        (.fixed sharesFail)) .sample).run {} = .error e s ∧
      (s.since {}).map (·.query) =
        [.localValue ⟨"Workload", "us-east-1"⟩ "/accel/network/vpc/App/id",
          .share .resolverRule "corp" "111111111111" "us-east-1"] ∧
      (Topology.sample.vantage ⟨"Workload", "us-east-1"⟩ (.fixed sharesFail)).AsksForRules
        .sample {} s := by
  obtain ⟨associated, -⟩ := rules_associated Topology.sample_valid ⟨"Workload", "us-east-1"⟩
    (.fixed publishedOnly) (Vantage.vetted_start _)
  obtain ⟨-, asked⟩ := rules_associated Topology.sample_valid ⟨"Workload", "us-east-1"⟩
    (.fixed sharesFail) (Vantage.vetted_start _)
  constructor
  · have planned : (match (RuleAssociation.build (Topology.sample.vantage
        ⟨"Workload", "us-east-1"⟩ (.fixed publishedOnly)) .sample).run {} with
      | .ok as s => decide (as.map (·.key) = ["corp_App_Workload"] ∧ (s.since {}).map (·.query) =
          [.localValue ⟨"Workload", "us-east-1"⟩ "/accel/network/vpc/App/id",
            .share .resolverRule "corp" "111111111111" "us-east-1",
            .remoteValue ⟨"Network", "111111111111", "us-east-1",
              some "accel-CrossAccountParameterShare-us-east-1"⟩
              "/accel/network/route53Resolver/rule/corp/id"])
      | .error .. => false) = true := by
      decide +kernel
    cases run : (RuleAssociation.build (Topology.sample.vantage ⟨"Workload", "us-east-1"⟩
        (.fixed publishedOnly)) .sample).run {} with
    | error e s =>
      rw [run] at planned
      exact nomatch planned
    | ok as s =>
      rw [run] at planned
      obtain ⟨keys, queries⟩ := of_decide_eq_true planned
      exact ⟨as, s, rfl, keys, queries, associated as s run⟩
  · have failed : (match (RuleAssociation.build (Topology.sample.vantage
        ⟨"Workload", "us-east-1"⟩ (.fixed sharesFail)) .sample).run {} with
      | .ok .. => false
      | .error _ s => decide ((s.since {}).map (·.query) =
          [.localValue ⟨"Workload", "us-east-1"⟩ "/accel/network/vpc/App/id",
            .share .resolverRule "corp" "111111111111" "us-east-1"])) = true := by
      decide +kernel
    cases run : (RuleAssociation.build (Topology.sample.vantage ⟨"Workload", "us-east-1"⟩
        (.fixed sharesFail)) .sample).run {} with
    | ok as s =>
      rw [run] at failed
      exact nomatch failed
    | error e s =>
      rw [run] at failed
      exact ⟨e, s, rfl, of_decide_eq_true failed, asked e s run⟩

end Interlink
