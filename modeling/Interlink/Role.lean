/-!
# Roles that a unit assumes in other accounts

A unit reaches into another account through a role whose name follows one
convention, so nobody has to tell it which role to take: the prefix of the
installation, the purpose, and the region of the owner.
-/

namespace Interlink

/-- What an assumed identity is for. -/
inductive RolePurpose
  /-- Reading values published in another account or region. -/
  | parameterShare
  /-- Writing peering routes into a foreign route table. -/
  | peeringRoutes
  /-- Describing gateway attachments that another account owns. -/
  | describeAttachments
deriving DecidableEq, Repr, Inhabited

namespace RolePurpose

/-- The middle part of the role's name. -/
def suffix : RolePurpose → String
  | .parameterShare => "CrossAccountParameterShare"
  | .peeringRoutes => "VpcPeeringRole"
  | .describeAttachments => "DescribeTgwAttachRole"

/-- The name of the role for a purpose in a region. -/
def roleName (purpose : RolePurpose) (pathPrefix region : String) : String :=
  pathPrefix ++ "-" ++ purpose.suffix ++ "-" ++ region

end RolePurpose

end Interlink
