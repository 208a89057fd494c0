/-
One login asked of the identity service over HTTP. Logins are taken at `auth/login` below the base URL of
the service, whether that ends in a slash or not; only URLs of the web will do. The credentials are posted
as JSON; redirects are followed up to a limit, some of them with the post repeated and some as a plain
request. What comes of it in the end is no answer, or an answer whose status and body tell refusals from
outages.
-/
import Gatehouse.Backend.Envelope
import Gatehouse.Json.Value
import Gatehouse.Url.Reader

namespace Gatehouse.Backend

open Gatehouse.Identity Gatehouse.Login Gatehouse.Log Gatehouse.Url

/-! ## Where logins are sent -/

/-- The path of logins below the base. -/
def loginPath : String := "auth/login"

/-- Why a text is no base of the identity service. -/
inductive EndpointError where
  | url (cause : UrlError)
  | notWeb (base : String)
  deriving DecidableEq, Repr

/-- The message of a refused base. -/
def EndpointError.message : EndpointError → String
  | .url e => "invalid identity backend url: " ++ e.message
  | .notWeb base => "invalid identity backend url: " ++ base ++ " is not an http(s) base url"

/-- The URL with a slash at the end of its path. -/
def withTrailingSlash (u : WebUrl) : WebUrl :=
  if u.pathText.getLast? = some '/' then u else u.setPath (u.pathText ++ ['/'])

/-- The URL for logins below a base. -/
def loginUrl (base : String) : Except EndpointError WebUrl := do
  match ← (Url.read base).mapError .url with
  | .other => throw (.notWeb base)
  | .web u =>
    match ← ((withTrailingSlash u).resolve loginPath).mapError .url with
    | .other => throw (.notWeb base)
    | .web login => return login

/-! ## Requests and what comes of them -/

/-- The methods that the identity service is asked with. -/
inductive Method where
  | get
  | post
  deriving DecidableEq, Repr

/-- A request to the identity service; only a post has a body. -/
structure Request where
  method : Method
  url : WebUrl
  body : Option (List Char)
  deriving DecidableEq, Repr

/-- A body that arrived whole, or broke off. -/
inductive Body where
  | whole (bytes : List UInt8)
  | broken
  deriving DecidableEq, Repr

/-- What comes of one request. -/
inductive Delivery where
  /-- No answer: no connection could be made, or the time ran out, or the connection was lost. -/
  | failed (connect timeout : Bool)
  | answer (status : Nat) (location : Option String) (body : Body)
  deriving DecidableEq, Repr

/-- The network: what comes of a request after those before it. -/
def Network : Type := List Request → Request → Delivery

/-- What comes of a request when all redirects are followed. -/
inductive Outcome where
  | failed (connect timeout : Bool)
  | answered (status : Nat) (body : Body)
  deriving DecidableEq, Repr

/-! ## Redirects -/

/-- How many redirects are followed. -/
def maxRedirects : Nat := 10

/-- A status that redirects. -/
def isRedirect (status : Nat) : Bool := [301, 302, 303, 307, 308].contains status

/-- The request that a redirect asks for instead: the same again, or a plain one. -/
def redirected (status : Nat) (request : Request) (url : WebUrl) : Request :=
  if status = 307 ∨ status = 308 then { request with url := url } else ⟨.get, url, none⟩

/-- Where an answer redirects to, unless its location cannot be read. -/
def redirectTarget? (request : Request) (status : Nat) (location : Option String) : Option Denoted :=
  if isRedirect status then location.bind fun l => (request.url.resolve l).toOption else none

/-- A URL that a request can name; there are hosts with quotes or braces, but no request to them. -/
def isAddressable (url : WebUrl) : Bool :=
  url.authority.host.write.all fun c => !("\"`\x7b\x7d".toList.contains c)

/-- What comes of a request with some redirects left, and all requests that reached a server. -/
def follow (network : Network) (left : Nat) (before : List Request) (request : Request) :
    Outcome × List Request :=
  let made := before ++ [request]
  if !isAddressable request.url then (.failed false false, before)
  else match network before request with
  | .failed connect timeout => (.failed connect timeout, if connect then before else made)
  | .answer status location body =>
    match redirectTarget? request status location with
    | none => (.answered status body, made)
    | some .other => (.failed false false, made)
    | some (.web url) =>
      match left with
      | 0 => (.failed false false, made)
      | left + 1 => follow network left made (redirected status request url)

/-! ## The answer -/

/-- The request failed. -/
def requestFailed (connect timeout : Bool) : Event :=
  ⟨.warn, "identity backend request failed", [("timeout", .bool timeout), ("connect", .bool connect)]⟩

/-- The answer has a status of refusal. -/
def loginRefused (status : Nat) : Event :=
  ⟨.debug, "identity backend rejected login", [("status", .integer status)]⟩

/-- A status of success. -/
def isSuccess (status : Nat) : Bool := 200 ≤ status && status ≤ 299

/-- The record that an outcome brings. -/
def Outcome.record : Outcome → Logged (Except ServiceError LoginRecord)
  | .failed connect timeout => ⟨.error (.unreachable .transport), [requestFailed connect timeout]⟩
  | .answered status body =>
    if (gatewayPhrase? status).isSome then .silent (.error (.unreachable (.gateway status)))
    else if !isSuccess status then ⟨.error (.rejected (some status)), [loginRefused status]⟩
    else match body with
      | .broken => .silent (.error (.unreachable .transport))
      | .whole bytes => .silent (recordOfBody bytes)

/-- The post of credentials. -/
def loginRequest (url : WebUrl) (address : EmailAddress) (password : String) : Request :=
  ⟨.post, url, some (Json.Value.object [("email", .text address.text), ("password", .text password)]).write⟩

/-- What the identity service makes of credentials, and the requests that reached a server. -/
def exchange (url : WebUrl) (network : Network) (address : EmailAddress) (password : String) :
    Logged (Except ServiceError LoginRecord) × List Request :=
  let (outcome, requests) := follow network maxRedirects [] (loginRequest url address password)
  (outcome.record, requests)

/-- The identity service at a URL. -/
def service (url : WebUrl) (network : Network) : Service := fun address password => do
  let result ← (exchange url network address password).1
  return .answered result

/-- How requests name the program. -/
def userAgent : String := "dashgate/0.1.0"

/-- The type of a posted body. -/
def bodyType : String := "application/json"

/-- The line that begins a request. -/
def Request.line (r : Request) : String :=
  (match r.method with
   | .get => "GET "
   | .post => "POST ") ++ r.url.target

/-- A network in which no connection can be made. -/
def refusing : Network := fun _ _ => .failed true false

end Gatehouse.Backend
