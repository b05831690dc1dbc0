import Interlink.Backend
import Interlink.Key

/-!
# Why a unit cannot be planned

An error is one of four: the topology says something that cannot be planned, a
value has not been published, a question could not be answered, or an edge is
asked for twice. Each has the key of what was wanted and a scope. What the
topology can say wrong is a closed type, `Misconfiguration`, so a theorem can
name the cases that remain after validation.
-/

namespace Interlink

/-- What cannot be planned as it is described. -/
inductive Misconfiguration
  | unknownAccount (account : String)
  | undefinedGateway (gateway account : String)
  /-- A VPC and the gateway it attaches to are in different regions. -/
  | gatewayInOtherRegion (gateway account vpc vpcRegion region : String)
  | sharedAttachmentKey (key : String)
  | unresolvedAttachment (key : String)
  | undefinedRouteTable (gateway table : String)
  | prefixListNotAtGateway (name : String)
  | noRouteTarget (kind : AttachmentKind) (child gateway : String)
  | severalRouteTargets (kind : AttachmentKind) (child : String)
  | notTwoVpcs (peering : String)
  | undefinedVpc (vpc : String)
  | prefixListNotAtRouteTable (name : String)
  | undefinedRule (rule : String)
  | ruleInOtherRegion (rule region vpc vpcRegion : String)
deriving DecidableEq, Repr, Inhabited

namespace Misconfiguration

/-- The key of what was wanted. -/
def key : Misconfiguration → String
  | .unknownAccount account => "account:" ++ account
  | .undefinedGateway gateway account => Key.gateway gateway account
  | .gatewayInOtherRegion gateway account _ _ _ => Key.gateway gateway account
  | .sharedAttachmentKey key => key
  | .unresolvedAttachment key => key
  | .undefinedRouteTable gateway table => Key.routeTable gateway table
  | .prefixListNotAtGateway name => "prefixList:" ++ name
  | .noRouteTarget kind child _ => kind.label ++ ":" ++ child
  | .severalRouteTargets kind child => kind.label ++ ":" ++ child
  | .notTwoVpcs peering => "vpcPeering:" ++ peering
  | .undefinedVpc vpc => "vpc:" ++ vpc
  | .prefixListNotAtRouteTable name => "prefixList:" ++ name
  | .undefinedRule rule => "resolverRule:" ++ rule
  | .ruleInOtherRegion rule _ _ _ => "resolverRule:" ++ rule

/-- What is wrong with it. -/
def reason : Misconfiguration → String
  | .unknownAccount _ => "account is not part of the organization"
  | .undefinedGateway .. => "transit gateway is not defined"
  | .gatewayInOtherRegion _ _ vpc vpcRegion region =>
    "VPC '" ++ vpc ++ "' in " ++ vpcRegion ++ " cannot attach to a gateway in " ++ region
  | .sharedAttachmentKey _ => "two attachments share the same gateway, account and child"
  | .unresolvedAttachment _ => "attachment has not been resolved"
  | .undefinedRouteTable .. => "route table is not defined on the gateway"
  | .prefixListNotAtGateway _ => "prefix list is not deployed to the gateway's account and region"
  | .noRouteTarget kind child gateway =>
    "no " ++ kind.label ++ " attachment '" ++ child ++ "' on gateway '" ++ gateway ++ "'"
  | .severalRouteTargets .. =>
    "attachment exists in several accounts; name the account on the route"
  | .notTwoVpcs _ => "a peering connects exactly two VPCs"
  | .undefinedVpc _ => "VPC is not defined"
  | .prefixListNotAtRouteTable _ =>
    "prefix list is not deployed to the route table's account and region"
  | .undefinedRule _ => "resolver rule is not defined"
  | .ruleInOtherRegion _ region vpc vpcRegion =>
    "rule lives in " ++ region ++ " but VPC '" ++ vpc ++ "' is in " ++ vpcRegion

end Misconfiguration

/-- Why a unit cannot be planned. -/
inductive PlanError
  /-- The topology, as seen from a scope, cannot be planned. -/
  | misconfigured (fault : Misconfiguration) (scope : Scope)
  /-- Nothing has been published under the key. -/
  | notFound (key : String) (scope : Scope)
  /-- The question for the key could not be answered. -/
  | lookupFailed (key : String) (scope : Scope) (source : LookupError)
  /-- An edge was asked for twice. -/
  | repeatedEdge (key : String) (scope : Scope)
deriving DecidableEq, Repr, Inhabited

namespace PlanError

/-- The key of what was wanted. -/
def key : PlanError → String
  | .misconfigured fault _ => fault.key
  | .notFound key _ => key
  | .lookupFailed key _ _ => key
  | .repeatedEdge key _ => key

/-- The scope in which it was wanted. -/
def scope : PlanError → Scope
  | .misconfigured _ scope => scope
  | .notFound _ scope => scope
  | .lookupFailed _ scope _ => scope
  | .repeatedEdge _ scope => scope

/-- The error as an operator reads it. -/
def message : PlanError → String
  | .misconfigured fault scope =>
    "configuration error for " ++ fault.key ++ " (referenced from " ++ scope.render ++ "): " ++
      fault.reason
  | .notFound key scope => "resource " ++ key ++ " not found in " ++ scope.render
  | .lookupFailed key scope source =>
    "remote lookup of " ++ key ++ " in " ++ scope.render ++ " failed: " ++ source.message
  | .repeatedEdge key scope =>
    "duplicate association " ++ key ++ " requested in " ++ scope.render

end PlanError

end Interlink
