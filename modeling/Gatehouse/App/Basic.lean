/-
All that the application is made of, put together from the settings: the gate, the login service's
address, and how sessions are issued and handed out. The gate resolves the session of a request from its
headers and judges the request by session and path.
-/
import Gatehouse.Access.Decision
import Gatehouse.Backend.Exchange
import Gatehouse.Http.Cookie
import Gatehouse.Login.Issue
import Gatehouse.Session.Token
import Gatehouse.Settings

namespace Gatehouse.App

open Gatehouse.Access Gatehouse.Http Gatehouse.Log Gatehouse.Session Gatehouse.Time

/-! ## The gate -/

/-- Who asks in a session, or in none. -/
def visitorOf : Option SessionClaims → Visitor
  | none => .anonymous
  | some claims => .signedIn claims.onboarded

/-- What sessions are read with, and what requests are judged by. -/
structure Gate where
  secret : SigningSecret
  authorizer : Authorizer
  deriving DecidableEq

/-- A decision, and the session it was made in. -/
structure Authorization where
  decision : Decision
  session : Option SessionClaims
  deriving DecidableEq, Repr

/-- The session that holds now, of the token in the headers. -/
def Gate.session (gate : Gate) (headers : List Header) (now : Instant) :
    Logged (Option SessionClaims) :=
  currentSession gate.secret (sessionToken? headers) now

/-- The decision on a request. -/
def Gate.authorize (gate : Gate) (path : String) (headers : List Header) (now : Instant) :
    Logged Authorization := do
  let session ← gate.session headers now
  return ⟨gate.authorizer.authorize path (visitorOf session), session⟩

end Gatehouse.App

namespace Gatehouse

open Gatehouse.App Gatehouse.Http Gatehouse.Login Gatehouse.Session

/-! ## The application -/

/-- All that the application is made of. -/
structure App where
  gate : Gate
  policy : Policy
  issuer : Issuer
  cookie : SessionCookie
  loginUrl : Url.WebUrl
  deriving DecidableEq

/-- The application of settings. -/
def App.ofSettings (settings : Settings) : Except SettingsError App :=
  match SigningSecret.ofText? settings.authSecret, Backend.loginUrl settings.backendUrl with
  | none, _ => .error (.invalid .authSecret)
  | _, .error _ => .error (.invalid .backendUrl)
  | some secret, .ok url => .ok
    { gate := ⟨secret, .reference⟩
      policy := ⟨settings.minPasswordLength, settings.backendTimeoutMillis⟩
      issuer := ⟨secret, settings.sessionLifetime⟩
      cookie := ⟨settings.sessionLifetime, settings.secureCookie⟩
      loginUrl := url }

end Gatehouse
