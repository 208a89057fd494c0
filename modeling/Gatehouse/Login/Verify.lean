/-
Credentials exchanged for a verified identity. What the local checks refuse never leaves the
process; all else is asked of the identity service, once. Every fault of the credentials has the
same message, so that nobody learns which check failed; only an outage is told apart.
-/
import Gatehouse.Credentials
import Gatehouse.Login.Service

namespace Gatehouse.Login

open Gatehouse.Identity Gatehouse.Log

/-- Why credentials were not verified. -/
inductive AuthFailure where
  | missingCredentials
  | invalidEmail
  | weakPassword
  | backendRejected
  | backendUnreachable
  | malformedResponse
  deriving DecidableEq, Repr

namespace AuthFailure

/-- Trying again may help, which is so of outages only. -/
def isRetryable (f : AuthFailure) : Bool := f = .backendUnreachable

/-- The message for the user. -/
def message (f : AuthFailure) : String :=
  if f.isRetryable then "identity service unavailable" else "invalid email or password"

/-- The reason for the log. -/
def reason : AuthFailure → String
  | .missingCredentials => "missing_credentials"
  | .invalidEmail => "invalid_email"
  | .weakPassword => "weak_password"
  | .backendRejected => "backend_rejected"
  | .backendUnreachable => "backend_unreachable"
  | .malformedResponse => "malformed_response"

/-- The failure of refused credentials. -/
def ofCredentialError : CredentialError → AuthFailure
  | .missing => .missingCredentials
  | .invalidEmail => .invalidEmail
  | .weakPassword => .weakPassword

/-- The failure of a request to the identity service. -/
def ofServiceError : ServiceError → AuthFailure
  | .rejected _ => .backendRejected
  | .unreachable _ => .backendUnreachable
  | .malformed _ => .malformedResponse

end AuthFailure

/-- What is asked of credentials, and how long the identity service may take. -/
structure Policy where
  minPasswordLength : Nat
  timeoutMillis : Nat
  deriving DecidableEq, Repr

/-- How long the identity service may take, where nothing else is set. -/
def defaultTimeoutMillis : Nat := 10000

/-- A result, and what was asked of the identity service on the way to it. -/
structure Asked (α : Type) where
  result : α
  calls : List (EmailAddress × String)

/-- The identity service did not answer in time. -/
def timedOut (millis : Nat) : Event :=
  ⟨.warn, "identity backend timed out", [("timeout_ms", .integer millis)]⟩

/-- The record of the identity service makes no identity. -/
def unusableRecord (e : IdentityError) : Event :=
  ⟨.warn, "identity backend returned an unusable user record", [("error", .text e.message)]⟩

/-- The identity that a reply brings. -/
def Reply.identity (timeoutMillis : Nat) : Reply → Logged (Except AuthFailure Identity)
  | .silence => ⟨.error .backendUnreachable, [timedOut timeoutMillis]⟩
  | .answered (.error e) => .silent (.error (.ofServiceError e))
  | .answered (.ok record) =>
    match record.identity with
    | .ok identity => .silent (.ok identity)
    | .error e => ⟨.error .malformedResponse, [unusableRecord e]⟩

/-- The identity of credentials. -/
def verify (policy : Policy) (service : Service) (credentials : Credentials) :
    Logged (Asked (Except AuthFailure Identity)) :=
  match credentials.check policy.minPasswordLength with
  | .error e => .silent ⟨.error (.ofCredentialError e), []⟩
  | .ok address => do
    let reply ← service address credentials.password
    let identity ← reply.identity policy.timeoutMillis
    return ⟨identity, [(address, credentials.password)]⟩

end Gatehouse.Login
