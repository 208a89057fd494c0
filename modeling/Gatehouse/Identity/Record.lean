/-
What a login brings, and the identity it is normalized to. A password login brings a record of the
identity service, an outside login the profile at its provider. Texts are trimmed and blank ones
count as absent; without a name the address stands in for it, without a role the fallback does.
-/
import Gatehouse.Identity.Basic
import Gatehouse.Json.Record

namespace Gatehouse.Identity

open Gatehouse.Text
open Gatehouse.Json (Syntax)

/-! ## Records of the identity service -/

/-- A user as the identity service describes one. -/
structure UserRecord where
  id : String
  email : String
  name : Option String
  role : Option String
  organizationId : Option String
  onboarded : Bool
  deriving DecidableEq, Repr

/-- An organization as the identity service describes one. -/
structure OrganizationRecord where
  id : String
  name : Option String
  deriving DecidableEq, Repr

/-- What the identity service answers to a login it accepts. -/
structure LoginRecord where
  user : UserRecord
  organization : Option OrganizationRecord
  deriving DecidableEq, Repr

/-- The user that a JSON value describes. -/
def UserRecord.ofJson? (s : Syntax) : Option UserRecord := do
  match ← s.fields? ["id", "email", "name", "role", "organizationId", "onboardingCompleted"] 2 with
  | [id, email, name, role, organization, onboarded] =>
    return { id := ← Json.requiredText? id, email := ← Json.requiredText? email,
             name := ← Json.optionalText? name, role := ← Json.optionalText? role,
             organizationId := ← Json.optionalText? organization,
             onboarded := ← Json.boolOrFalse? onboarded }
  | _ => none

/-- The organization that a JSON value describes. -/
def OrganizationRecord.ofJson? (s : Syntax) : Option OrganizationRecord := do
  match ← s.fields? ["id", "name"] 1 with
  | [id, name] => return { id := ← Json.requiredText? id, name := ← Json.optionalText? name }
  | _ => none

/-- The login that a JSON value describes; an organization that is `null` is none. -/
def LoginRecord.ofJson? (s : Syntax) : Option LoginRecord := do
  match ← s.fields? ["user", "organization"] 1 with
  | [some user, organization] =>
    let organization ←
      match organization with
      | none => some none
      | some .null => some none
      | some v => (OrganizationRecord.ofJson? v).map some
    return { user := ← UserRecord.ofJson? user, organization := organization }
  | _ => none

/-! ## Normalizing -/

/-- The identity made of the given texts. -/
def normalize (id email : String) (name organization role : Option String) (onboarded : Bool) :
    Except IdentityError Identity := do
  let userId ← (Uuid.parse (trim id)).mapError .userId
  let address ← (EmailAddress.parse email).mapError .email
  let organizationId ←
    match presentText? organization with
    | none => pure none
    | some s => some <$> (Uuid.parse s).mapError .organizationId
  return { id := userId
           email := address.text
           displayName := (presentText? name).getD address.text
           organizationId := organizationId
           role := ((presentText? role).map Role.mk).getD .fallback
           onboarded := onboarded }

/-- The organization's id as the record spells it; the user's own may not be spelled differently. -/
def LoginRecord.organizationText (record : LoginRecord) : Except IdentityError (Option String) :=
  match record.organization, record.user.organizationId with
  | some organization, some id =>
    if organization.id = id then .ok (some organization.id) else .error .organizationMismatch
  | some organization, none => .ok (some organization.id)
  | none, id => .ok id

/-- The identity of a record. -/
def LoginRecord.identity (record : LoginRecord) : Except IdentityError Identity := do
  let organization ← record.organizationText
  let user := record.user
  normalize user.id user.email user.name organization user.role user.onboarded

/-! ## Outside logins -/

/-- What an outside provider and the identity service tell of a user between them. -/
structure ProviderProfile where
  provider : String
  userId : String
  email : String
  name : Option String
  organizationId : Option String
  role : Option String
  onboarded : Bool
  accessToken : String
  deriving DecidableEq, Repr

/-- The identity of a profile. -/
def ProviderProfile.identity (profile : ProviderProfile) : Except IdentityError Identity :=
  normalize profile.userId profile.email profile.name profile.organizationId profile.role
    profile.onboarded

/-- What an identity can be taken from. -/
inductive Source where
  | record (record : LoginRecord)
  | profile (profile : ProviderProfile)
  | verified (identity : Identity)
  deriving DecidableEq, Repr

/-- The identity of a source; an identity is its own. -/
def Source.identity : Source → Except IdentityError Identity
  | .record r => r.identity
  | .profile p => p.identity
  | .verified i => .ok i

/-- The provider account of a source; only a profile has one. -/
def Source.account : Source → Option ProviderAccount
  | .profile p => some ⟨p.provider, p.accessToken⟩
  | _ => none

end Gatehouse.Identity
