/-
Sign-in: from credentials, or from an identity that is vouched for in another way, to a session. All
sources meet in one step that issues the session; there is a whole session or an error.
-/
import Gatehouse.Login.Verify
import Gatehouse.Session.Token

namespace Gatehouse.Login

open Gatehouse.Identity Gatehouse.Log Gatehouse.Session Gatehouse.Time

/-- Why a login brought no session. -/
inductive LoginError where
  | invalidCredentials
  | unavailable
  | issuance (cause : TokenError)
  deriving DecidableEq, Repr

/-- The message of a failed login. -/
def LoginError.message : LoginError → String
  | .invalidCredentials => "invalid email or password"
  | .unavailable => "identity service unavailable"
  | .issuance e => "failed to issue session: " ++ e.message

/-- The error of a failure to verify: an outage is told apart from all else. -/
def LoginError.ofFailure (f : AuthFailure) : LoginError :=
  if f.isRetryable then .unavailable else .invalidCredentials

/-- What sessions are issued with. -/
structure Issuer where
  secret : SigningSecret
  lifetime : Span
  deriving DecidableEq

/-- The source makes no identity. -/
def sourceRejected (e : IdentityError) : Event :=
  ⟨.info, "login rejected: identity could not be normalized", [("error", .text e.message)]⟩

/-- A session was issued. -/
def sessionIssued (claims : SessionClaims) (account : Option ProviderAccount) : Event :=
  ⟨.info, "session issued",
    [("user_id", .text claims.subject.render), ("onboarding_completed", .bool claims.onboarded)] ++
      (match account with
       | none => []
       | some a => [("provider", .text a.provider)])⟩

/-- Credentials were not verified. -/
def loginFailed (f : AuthFailure) : Event :=
  if f.isRetryable then
    ⟨.warn, "login failed: identity backend unavailable", [("reason", .text f.reason)]⟩
  else ⟨.info, "login rejected", [("reason", .text f.reason)]⟩

/-- A session for the identity of a source. -/
def issueFor (issuer : Issuer) (nonce : Nonce) (source : Source) (now : Instant) :
    Logged (Except LoginError IssuedSession) :=
  match source.identity with
  | .error e => ⟨.error .invalidCredentials, [sourceRejected e]⟩
  | .ok identity =>
    match issueSession issuer.secret nonce identity source.account issuer.lifetime now with
    | .error e => .silent (.error (.issuance e))
    | .ok issued => ⟨.ok issued, [sessionIssued issued.claims source.account]⟩

/-- A session for credentials. A password login has no provider account, so its nonce is not used. -/
def login (policy : Policy) (issuer : Issuer) (service : Service) (credentials : Credentials)
    (nonce : Nonce) (now : Instant) : Logged (Asked (Except LoginError IssuedSession)) := do
  let verified ← verify policy service credentials
  match verified.result with
  | .error f => do
    Logged.tell (loginFailed f)
    return ⟨.error (.ofFailure f), verified.calls⟩
  | .ok identity => do
    let issued ← issueFor issuer nonce (.verified identity) now
    return ⟨issued, verified.calls⟩

end Gatehouse.Login
