/-
The session cookie, and where a request carries its session token. The cookie is issued for the session's
lifetime and cleared by a lifetime of zero; scripts may not read it, and other sites' forms do not send
it. Of the cookies that are sent back, the last with the session's name counts; without one, the token
stands after the word `Bearer` in the first `Authorization` field. A blank token is none.
-/
import Gatehouse.Http.Message
import Gatehouse.Text.Integer
import Gatehouse.Time.Instant

namespace Gatehouse.Http

open Gatehouse.Text Gatehouse.Time

/-- The name of the session cookie. -/
def sessionCookieName : String := "dashgate.session"

/-! ## Setting -/

/-- How the session cookie is set. -/
structure SessionCookie where
  lifetime : Span
  secure : Bool
  deriving DecidableEq, Repr

/-- The `Set-Cookie` value of a session cookie that lives for some seconds. -/
def setCookie (value : String) (secure : Bool) (seconds : Int) : String :=
  sessionCookieName ++ "=" ++ value ++ "; HttpOnly; SameSite=Lax" ++ (if secure then "; Secure" else "") ++
    "; Path=/; Max-Age=" ++ String.ofList (Integer.signedDigits seconds)

/-- A value with a byte that no header may hold. -/
inductive HeaderValueError where
  | unsendable
  deriving DecidableEq, Repr

/-- The message of a value that cannot be sent. -/
def HeaderValueError.message : HeaderValueError → String
  | .unsendable => "failed to parse header value"

/-- The `Set-Cookie` value that hands out a token. -/
def SessionCookie.issue (cookie : SessionCookie) (token : String) : Except HeaderValueError String :=
  let value := setCookie token cookie.secure cookie.lifetime.seconds
  if (bytesOf value).all isSendable then .ok value else .error .unsendable

/-- The `Set-Cookie` value that takes the token back. -/
def SessionCookie.clear (cookie : SessionCookie) : String := setCookie "" cookie.secure 0

/-! ## Reading -/

/-- The name and the value of a pair: neither blank around them nor escapes in them count, the name
is not empty, and both are texts. -/
def cookiePair? (cs : List Char) : Option (String × String) :=
  match cs.dropWhile (· != '=') with
  | [] => none
  | _ :: value =>
    let name := strip (cs.takeWhile (· != '='))
    if name.isEmpty then none
    else do return (← Percent.decodeText? name, ← Percent.decodeText? (strip value))

/-- The cookies of a request, in their order. -/
def cookies (headers : List Header) : List (String × String) :=
  (headersNamed "cookie" headers).flatMap fun h =>
    match headerText? h.value with
    | none => []
    | some line => (line.toList.splitOn ';').filterMap cookiePair?

/-- The value of the last cookie with a name. -/
def cookieNamed? (name : String) (headers : List Header) : Option String :=
  ((cookies headers).reverse.find? (·.1 = name)).map (·.2)

/-! ## The token of a request -/

/-- What stands before a token in an `Authorization` field. -/
def bearerMark : List Char := "Bearer ".toList

/-- The token of the first `Authorization` field. -/
def bearerToken? (headers : List Header) : Option String := do
  let header ← (headersNamed "authorization" headers).head?
  let text ← headerText? header.value
  if bearerMark.isPrefixOf text.toList then
    nonBlank? (String.ofList (text.toList.drop bearerMark.length))
  else none

/-- The session token of a request. -/
def sessionToken? (headers : List Header) : Option String :=
  match (cookieNamed? sessionCookieName headers).bind nonBlank? with
  | some token => some token
  | none => bearerToken? headers

end Gatehouse.Http
