import Interlink.Attachment
import Interlink.Resolver

/-!
# Associations of resolver rules

A rule for name resolution is created once, by its owner, and shared. Every VPC
of the unit is associated with the rules that it lists.
-/

namespace Interlink

/-- An association of a rule with a VPC, to create. -/
structure RuleAssociation where
  key : String
  logicalId : String
  rule : String
  ruleId : String
  vpc : String
  vpcId : String
  scope : Scope
deriving DecidableEq, Repr, Inhabited

namespace RuleAssociation

/-- A rule that a VPC of the unit may be associated with. -/
def requireRule (t : Topology) (scope : Scope) (vpc : Vpc) (name : String) :
    Except PlanError ResolverRule :=
  match t.resolverRule? name with
  | none => .error (.misconfigured (.undefinedRule name) scope)
  | some rule =>
    if rule.region = vpc.region then .ok rule
    else .error (.misconfigured (.ruleInOtherRegion name rule.region vpc.name vpc.region) scope)

/-- The association of a VPC with a rule. -/
def plan (v : Vantage) (t : Topology) (vpc : Vpc) (vpcId name : String) :
    Lookup RuleAssociation := do
  let rule ← Lookup.ofExcept (requireRule t v.caller vpc name)
  let ruleId ← v.learn (.resolverRule rule.name) ⟨rule.account, rule.region⟩
  pure
    { key := Key.resolverRuleAssociation rule.name vpc.name v.caller.account
      logicalId := vpc.name ++ "-" ++ rule.name ++ "-rule-association"
      rule := rule.name
      ruleId
      vpc := vpc.name
      vpcId
      scope := v.caller }

/-- The associations of a VPC with some rules. -/
def planRules (v : Vantage) (t : Topology) (vpc : Vpc) (vpcId : String) :
    List String → Lookup (List RuleAssociation)
  | [] => pure []
  | name :: rest => do
    let a ← plan v t vpc vpcId name
    let as ← planRules v t vpc vpcId rest
    pure (a :: as)

/-- Whether a VPC of the unit lists rules. -/
def concerns (v : Vantage) (vpc : Vpc) : Bool :=
  !vpc.resolverRules.isEmpty && vpc.region == v.caller.region &&
    (v.accounts.vpcAccounts vpc).contains v.caller.account

/-- The associations of some VPCs. -/
def planVpcs (v : Vantage) (t : Topology) : List Vpc → Lookup (List RuleAssociation)
  | [] => pure []
  | vpc :: rest => do
    let vpcId ← v.learn (.vpc vpc.name) v.caller
    let as ← planRules v t vpc vpcId vpc.resolverRules
    let others ← planVpcs v t rest
    pure (as ++ others)

/-- The associations of the unit's VPCs, in the order of the description. -/
def build (v : Vantage) (t : Topology) : Lookup (List RuleAssociation) :=
  planVpcs v t (t.network.vpcs.filter (concerns v))

end RuleAssociation

end Interlink
