/-
The identity service's side of a connection: the request that goes out, and what the bytes that
come back make of it, up to a body that broke off.
-/
import Gatehouse.Backend.Exchange
import Gatehouse.Http.Wire

namespace Gatehouse.Backend

open Gatehouse.Http Gatehouse.Text Gatehouse.Url

/-- The host and the port that a URL is asked at. -/
def hostLine (url : WebUrl) : String :=
  String.ofList (url.authority.host.write ++ writePart ':' (url.authority.port.map Integer.digits))

/-- The header fields that stand for a body. -/
def bodyLines : Option (List Char) → List UInt8
  | none => []
  | some body =>
    headerLine "content-type" bodyType ++
      headerLine "content-length" (String.ofList (Integer.digits (utf8Bytes body).length))

/-- The request as it goes out. -/
def Request.bytes (request : Request) : List UInt8 :=
  Http.line (request.line ++ " HTTP/1.1") ++ headerLine "host" (hostLine request.url) ++
    headerLine "user-agent" userAgent ++ headerLine "accept" "*/*" ++ bodyLines request.body ++
    headerLine "connection" "close" ++ Http.line "" ++ utf8Bytes (request.body.getD [])

/-- The status in the first line of an answer. -/
def statusOf? (line : String) : Option Nat :=
  match line.toList.splitOn ' ' with
  | _ :: status :: _ => Integer.digits? status
  | _ => none

/-- What has come of a request, if nothing more is needed to tell; once the connection has ended,
nothing more can come. -/
def Delivery.ofBytes? (ended : Bool) (bs : List UInt8) : Option Delivery :=
  match Head.read bs with
  | .unreadable => some (.failed false false)
  | .unfinished => if ended then some (.failed false false) else none
  | .whole (head, rest) =>
    match statusOf? head.line with
    | none => some (.failed false false)
    | some status =>
      let answer := Delivery.answer status (head.text? "location")
      if status = 204 || status = 304 then some (answer (.whole []))
      else match head.body true ended rest with
        | .whole body => some (answer (.whole body))
        | .unreadable => some (answer .broken)
        | .unfinished => if ended then some (answer .broken) else none

end Gatehouse.Backend
