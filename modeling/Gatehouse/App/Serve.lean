/-
Requests answered: the gate judges each of them first, and only what it allows reaches one of the four
endpoints that the application answers itself. All other paths are pages that are rendered elsewhere; once
the gate lets them through, nothing is found here. Failed logins look alike whatever the credentials
lacked, and only a successful one sets the cookie.
-/
import Gatehouse.App.Basic
import Gatehouse.Http.MediaType
import Gatehouse.Http.Message

namespace Gatehouse.App

open Gatehouse.Access Gatehouse.Http Gatehouse.Log Gatehouse.Login Gatehouse.Session Gatehouse.Time

/-! ## Bodies -/

/-- The greatest length of a body in bytes. -/
def maxBodyBytes : Nat := 2097152

/-- The credentials in a JSON value; a field that is absent is empty. -/
def credentialsOfJson? (s : Json.Syntax) : Option Credentials := do
  match ← s.fields? ["email", "password"] 0 with
  | [email, password] => return ⟨← Json.textOrEmpty? email, ← Json.textOrEmpty? password⟩
  | _ => none

/-- The request says that its body is JSON. -/
def hasJsonType (headers : List Header) : Bool :=
  ((headersNamed "content-type" headers).head?.bind fun h => headerText? h.value).any namesJson

/-- The credentials in the body of a request. What follows the first value is not looked at. -/
def credentialsOf? (request : Request) : Option Credentials :=
  if hasJsonType request.headers && request.body.length ≤ maxBodyBytes then
    (Json.Syntax.readFront request.body).bind fun (s, _) => credentialsOfJson? s
  else none

/-! ## Endpoints -/

/-- The endpoints that the application answers itself. -/
inductive Endpoint where
  | health
  | login
  | logout
  | session
  deriving DecidableEq, Repr

/-- The endpoint at a path, which must be spelled exactly so. -/
def Endpoint.at? (path : String) : Option Endpoint :=
  if path = "/api/health" then some .health
  else if path = "/api/auth/login" then some .login
  else if path = "/api/auth/logout" then some .logout
  else if path = "/api/auth/session" then some .session
  else none

/-- The methods that an endpoint takes. -/
def Endpoint.methods : Endpoint → List String
  | .health => ["GET", "HEAD"]
  | .session => ["GET", "HEAD"]
  | .login => ["POST"]
  | .logout => ["POST"]

/-- A session could not be issued. -/
def issuanceFailed (e : TokenError) : Event :=
  ⟨.error, "failed to issue session", [("error", .text e.message)]⟩

/-- A token could not be handed out. -/
def cookieFailed : Event := ⟨.error, "session token is not a valid cookie value", []⟩

/-- A session was given up. -/
def sessionDiscarded (claims : SessionClaims) : Event :=
  ⟨.info, "session discarded", [("user_id", .text claims.subject.render)]⟩

/-- The session could not be made, for whatever reason. -/
def sessionError : Response := .error 500 "session_error" "could not create session"

/-- The response to a failed login. -/
def loginFailure (e : LoginError) : Logged Response :=
  match e with
  | .invalidCredentials => .silent (.error 401 "invalid_credentials" e.message)
  | .unavailable => .silent (.error 503 "backend_unavailable" e.message)
  | .issuance cause => ⟨sessionError, [issuanceFailed cause]⟩

/-- The response that hands out a session. -/
def handOut (cookie : SessionCookie) (issued : IssuedSession) : Logged Response :=
  match cookie.issue issued.token with
  | .error _ => ⟨sessionError, [cookieFailed]⟩
  | .ok value =>
    .silent (.json 200 [("set-cookie", value)] (.object [("session", issued.claims.view.json)]))

/-- The response to a login. -/
def respondLogin (app : App) (service : Service) (nonce : Nonce) (now : Instant) (request : Request) :
    Logged (Asked Response) :=
  match credentialsOf? request with
  | none =>
    .silent ⟨.error 400 "invalid_request" "expected a JSON body with email and password", []⟩
  | some credentials => do
    let login ← login app.policy app.issuer service credentials nonce now
    let response ←
      match login.result with
      | .error e => loginFailure e
      | .ok issued => handOut app.cookie issued
    return ⟨response, login.calls⟩

/-- The response to a logout. -/
def respondLogout (app : App) (session : Option SessionClaims) : Logged Response :=
  ⟨.empty 204 [("set-cookie", app.cookie.clear)], session.toList.map sessionDiscarded⟩

/-- The response that shows the session. -/
def respondSession : Option SessionClaims → Response
  | none => .json 200 [] .null
  | some claims => .json 200 [] claims.view.json

/-- The response for a path where nothing is. -/
def notFound (path : String) : Response := .error 404 "not_found" ("no handler for " ++ path)

/-- The response of an endpoint to a method that it takes. -/
def respondAt (app : App) (service : Service) (nonce : Nonce) (now : Instant)
    (session : Option SessionClaims) (request : Request) : Endpoint → Logged (Asked Response)
  | .health => .silent ⟨.empty 200 [], []⟩
  | .session => .silent ⟨respondSession session, []⟩
  | .login => respondLogin app service nonce now request
  | .logout => do
    let response ← respondLogout app session
    return ⟨response, []⟩

/-- The response of an endpoint without its body, if the method is `HEAD`. -/
def forMethod (method : String) (asked : Asked Response) : Asked Response :=
  if method = "HEAD" then { asked with result := asked.result.headOnly } else asked

/-- The response to a request that the gate has let through. -/
def respond (app : App) (service : Service) (nonce : Nonce) (now : Instant)
    (session : Option SessionClaims) (request : Request) : Logged (Asked Response) :=
  match Endpoint.at? request.path with
  | none => .silent ⟨notFound request.path, []⟩
  | some endpoint =>
    if endpoint.methods.contains request.method then
      forMethod request.method <$> respondAt app service nonce now session request endpoint
    else
      .silent ⟨.empty 405 [("allow", String.ofList
        (List.intercalate [','] (endpoint.methods.map String.toList)))], []⟩

/-! ## Behind the gate -/

/-- A request is sent elsewhere. -/
def redirecting (path : String) (rule : Rule) (location : String) : Event :=
  ⟨.debug, "redirecting request",
    [("path", .text path), ("rule", .text rule.name), ("location", .text location)]⟩

/-- The response to a request: the gate first, and what is behind it only if the gate allows. -/
def handle (app : App) (service : Service) (nonce : Nonce) (now : Instant) (request : Request) :
    Logged (Asked Response) := do
  let authorization ← app.gate.authorize request.path request.headers now
  match authorization.decision.outcome with
  | .redirect redirect => do
    Logged.tell (redirecting request.path authorization.decision.rule redirect.location)
    return ⟨.empty 307 [("location", redirect.location)], []⟩
  | .allow => respond app service nonce now authorization.session request

/-- The response to a request without a gate, and so in no session. -/
def handleUngated (app : App) (service : Service) (nonce : Nonce) (now : Instant)
    (request : Request) : Logged (Asked Response) :=
  respond app service nonce now none request

end Gatehouse.App
