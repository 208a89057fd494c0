/-
Who someone is: the verified identity that a session is issued for, and the account at an outside
provider that may have vouched for it.
-/
import Gatehouse.Identity.Email
import Gatehouse.Identity.Uuid

namespace Gatehouse.Identity

/-- A user's role in the organization. Names are the identity service's; unknown ones are kept. -/
structure Role where
  name : String
  deriving DecidableEq, Repr

namespace Role

def admin : Role := ⟨"admin"⟩

def member : Role := ⟨"member"⟩

def viewer : Role := ⟨"viewer"⟩

/-- The role of a user for whom none is given. -/
def fallback : Role := member

end Role

end Gatehouse.Identity

namespace Gatehouse

open Gatehouse.Identity in
/-- A verified identity. -/
structure Identity where
  id : Uuid
  email : String
  displayName : String
  organizationId : Option Uuid
  role : Role
  onboarded : Bool
  deriving DecidableEq, Repr

end Gatehouse

namespace Gatehouse.Identity

/-- An account at an outside provider, with the token that gives access to it. -/
structure ProviderAccount where
  provider : String
  accessToken : String
  deriving DecidableEq, Repr

/-- Why no identity can be made of what a login brought. -/
inductive IdentityError where
  | email (cause : EmailError)
  | organizationMismatch
  | userId (cause : UuidError)
  | organizationId (cause : UuidError)
  deriving DecidableEq, Repr

/-- The message of a refused identity. -/
def IdentityError.message : IdentityError → String
  | .email e => "validation failed: " ++ e.message
  | .organizationMismatch => "validation failed: user organization does not match organization payload"
  | .userId e => "invalid identifier: UserId: " ++ e.message
  | .organizationId e => "invalid identifier: OrganizationId: " ++ e.message

end Gatehouse.Identity
