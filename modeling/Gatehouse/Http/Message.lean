/-
Requests and responses. The fields of a request have names in any case and values of bytes, which count
as text only if they are printable ASCII, blanks and tabs included; a value that is sent may hold no
control character but the tab. The target of a request is a path with a query, a whole URL, an asterisk or
only an authority; the path is what routes are found by.
-/
import Gatehouse.Json.Value
import Gatehouse.Text.Basic

namespace Gatehouse.Http

open Gatehouse.Text

/-! ## Header fields -/

/-- A header field. -/
structure Header where
  name : String
  value : List UInt8
  deriving DecidableEq, Repr

/-- A byte of a value that counts as text. -/
def isPrintable (b : UInt8) : Bool := (32 ≤ b && b ≤ 126) || b = 9

/-- The text of a value, if it counts as one. -/
def headerText? (value : List UInt8) : Option String :=
  if value.all isPrintable then some (asciiOf value) else none

/-- A byte that a value may hold. -/
def isSendable (b : UInt8) : Bool := (32 ≤ b && b ≠ 127) || b = 9

/-- The fields of a name, in their order; the name is given in lower case. -/
def headersNamed (name : String) (headers : List Header) : List Header :=
  headers.filter fun h => h.name.toList.map Char.toLower = name.toList

/-! ## Requests -/

/-- A request as it came in. -/
structure Request where
  method : String
  target : String
  headers : List Header
  body : List UInt8
  deriving DecidableEq, Repr

/-- A character that ends a path. -/
def endsPath (c : Char) : Bool := c == '?' || c == '#'

/-- What follows the first `://`. -/
def afterScheme? : List Char → Option (List Char)
  | ':' :: '/' :: '/' :: r => some r
  | _ :: r => afterScheme? r
  | [] => none

/-- The path of a target. An authority alone has none; a whole URL without one has the root's. -/
def targetPath (target : List Char) : List Char :=
  match target with
  | '/' :: _ => target.takeWhile (fun c => !endsPath c)
  | ['*'] => target
  | _ =>
    match afterScheme? target with
    | none => []
    | some r =>
      match (r.dropWhile fun c => c != '/' && !endsPath c).takeWhile (fun c => !endsPath c) with
      | [] => ['/']
      | path => path

/-- The path of a request, as it is spelled. -/
def Request.path (request : Request) : String := String.ofList (targetPath request.target.toList)

/-! ## Responses -/

/-- A response; header names are in lower case. -/
structure Response where
  status : Nat
  headers : List (String × String)
  body : String
  deriving DecidableEq, Repr

/-- A response without a body. -/
def Response.empty (status : Nat) (headers : List (String × String)) : Response := ⟨status, headers, ""⟩

/-- A response with a JSON body. -/
def Response.json (status : Nat) (headers : List (String × String)) (body : Json.Value) : Response :=
  ⟨status, headers ++ [("content-type", "application/json")], body.render⟩

/-- A response that names an error and tells about it. -/
def Response.error (status : Nat) (code message : String) : Response :=
  .json status [] (.object [("error", .text code), ("message", .text message)])

/-- The response without its body, as a `HEAD` request has it. -/
def Response.headOnly (response : Response) : Response := { response with body := "" }

/-- The value of a header. -/
def Response.header? (response : Response) (name : String) : Option String := response.headers.lookup name

end Gatehouse.Http
