/-!
# Composite keys

Every map of a unit, every record it emits and every value it publishes is
addressed by a key built from names. A key depends on the names alone, so a
unit can compute the key that another unit used without asking it.

The parts are joined by underscores and names may themselves hold underscores,
so a key names its parts only where the names are free of the joint.
-/

namespace Interlink.Key

/-- The key of a gateway: its name and its owning account. -/
def gateway (gateway account : String) : String := gateway ++ "_" ++ account

/-- The key of a gateway's route table. The account is not part of it: names of
gateways do not repeat inside a region. -/
def routeTable (gateway table : String) : String := gateway ++ "_" ++ table

/-- The key of an attachment: gateway, owning account and child. -/
def attachment (gateway account child : String) : String :=
  gateway ++ "_" ++ account ++ "_" ++ child

/-- The key of the edge between an attachment and a route table, the same
wherever the table stands in a configured list. -/
def edge (attachmentKey table : String) : String := attachmentKey ++ "__" ++ table

/-- The identity of an association or propagation inside its unit. The account
is spelled out only for a child that is deployed to several accounts. -/
def logicalId (attachmentName table : String) (account : Option String) (suffix : String) :
    String :=
  match account with
  | some account => attachmentName ++ "-" ++ table ++ "-" ++ account ++ "-" ++ suffix
  | none => attachmentName ++ "-" ++ table ++ "-" ++ suffix

/-- The identity of a peering connection. A side whose VPC is deployed to
several accounts adds its account id, so that the connections of one
definition differ. -/
def peering (name : String) (requesterId accepterId : Option String) : String :=
  [requesterId, accepterId].reduceOption.foldl (fun key id => key ++ "_" ++ id) name

/-- The key of a planned route: connection, VPC, route table and entry. -/
def route (ownerKey vpc table entry : String) : String :=
  ownerKey ++ "_" ++ vpc ++ "_" ++ table ++ "_" ++ entry

/-- The key of a static route on a gateway route table. -/
def gatewayRoute (gateway table destination : String) : String :=
  gateway ++ "_" ++ table ++ "_" ++ destination

/-- The key of the association of a resolver rule with a VPC. -/
def resolverRuleAssociation (rule vpc account : String) : String :=
  rule ++ "_" ++ vpc ++ "_" ++ account

end Interlink.Key
