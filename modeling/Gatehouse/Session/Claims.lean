/-
What a session says: who it belongs to and when it holds. Claims are built from an identity for a
lifetime of whole seconds, counted from the last whole second; they hold from the instant of issue
up to, but not at, the instant of expiry. The view of a session leaves out the provider account
and the instant of issue.
-/
import Gatehouse.Identity.Basic
import Gatehouse.Json.Value
import Gatehouse.Time.Calendar

namespace Gatehouse.Session

open Gatehouse.Identity Gatehouse.Time
open Gatehouse.Json (Value)

/-- What a session says. -/
structure SessionClaims where
  subject : Uuid
  email : String
  name : String
  organizationId : Option Uuid
  role : Role
  onboarded : Bool
  issuedAt : Instant
  expiresAt : Instant
  provider : Option ProviderAccount
  deriving DecidableEq, Repr

/-- What a session shows to its user. -/
structure SessionView where
  id : Uuid
  email : String
  name : String
  organizationId : Option Uuid
  role : Role
  onboarded : Bool
  expiresAt : Instant
  deriving DecidableEq, Repr

/-- The view of the claims. -/
def SessionClaims.view (claims : SessionClaims) : SessionView where
  id := claims.subject
  email := claims.email
  name := claims.name
  organizationId := claims.organizationId
  role := claims.role
  onboarded := claims.onboarded
  expiresAt := claims.expiresAt

/-! ## The window -/

/-- Why claims do not hold at an instant, or can hold at none. -/
inductive WindowError where
  | expired
  | notYetValid
  | invalidWindow
  deriving DecidableEq, Repr

/-- The message of a window that does not fit. -/
def WindowError.message : WindowError → String
  | .expired => "token has expired"
  | .notYetValid => "token not yet valid (issued_at is in the future)"
  | .invalidWindow => "invalid token time window (expires_at <= issued_at)"

/-- The claims of an identity for a lifetime that begins now. -/
def SessionClaims.build (identity : Identity) (provider : Option ProviderAccount) (now : Instant)
    (lifetime : Span) : Except WindowError SessionClaims :=
  let expiresAt := now.floor.plus lifetime
  if lifetime.nanos ≤ 0 || !lifetime.isWhole || !expiresAt.isRepresentable then .error .invalidWindow
  else .ok
    { subject := identity.id
      email := identity.email
      name := identity.displayName
      organizationId := identity.organizationId
      role := identity.role
      onboarded := identity.onboarded
      issuedAt := now.floor
      expiresAt := expiresAt
      provider := provider }

/-- The claims hold at an instant. -/
def SessionClaims.checkWindow (claims : SessionClaims) (now : Instant) : Except WindowError Unit :=
  if claims.expiresAt ≤ claims.issuedAt then .error .invalidWindow
  else if now < claims.issuedAt then .error .notYetValid
  else if claims.expiresAt ≤ now then .error .expired
  else .ok ()

/-! ## As JSON -/

/-- An identifier, or `null` for none. -/
def idValue : Option Uuid → Value
  | none => .null
  | some u => .text u.render

/-- The claims as the members of an object, without the provider account. -/
def SessionClaims.members (claims : SessionClaims) : List (String × Value) :=
  [("sub", .text claims.subject.render),
   ("email", .text claims.email),
   ("name", .text claims.name),
   ("organization_id", idValue claims.organizationId),
   ("role", .text claims.role.name),
   ("onboarding_completed", .bool claims.onboarded),
   ("iat", .integer claims.issuedAt.seconds),
   ("exp", .integer claims.expiresAt.seconds)]

/-- The view as an object. -/
def SessionView.json (view : SessionView) : Value :=
  .object
    [("id", .text view.id.render),
     ("email", .text view.email),
     ("name", .text view.name),
     ("organizationId", idValue view.organizationId),
     ("role", .text view.role.name),
     ("onboardingCompleted", .bool view.onboarded),
     ("expiresAt", .text view.expiresAt.render)]

end Gatehouse.Session
