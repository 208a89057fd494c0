/-
Messages as they go over a connection: a first line, header fields up to an empty line, and a body
that ends after an announced length, at an empty chunk, or with the connection. Bytes that have come
make a message, or need more to follow, or never will make one.
-/
import Gatehouse.Http.Message
import Gatehouse.Text.Basic
import Gatehouse.Text.Integer

namespace Gatehouse.Http

open Gatehouse.Text

/-! ## What has come -/

/-- What the bytes that have come make. -/
inductive Arrival (α : Type) where
  | whole (a : α)
  | unfinished
  | unreadable
  deriving DecidableEq, Repr

namespace Arrival

/-- A step that goes on from something that has come as a whole. -/
def andThen {α β : Type} (x : Arrival α) (f : α → Arrival β) : Arrival β :=
  match x with
  | .whole a => f a
  | .unfinished => .unfinished
  | .unreadable => .unreadable

instance : Monad Arrival where
  pure := .whole
  bind := andThen

/-- What is there, or else can never be read. -/
def ofOption {α : Type} : Option α → Arrival α
  | some a => .whole a
  | none => .unreadable

end Arrival

/-! ## Heads -/

/-- The first line of a message, and its header fields. -/
structure Head where
  line : String
  headers : List Header
  deriving DecidableEq, Repr

/-- The greatest number of lines of a head after the first. -/
def maxHeadLines : Nat := 100

/-- The first line without its end, and what follows it. -/
def nextLine (bs : List UInt8) : Arrival (List UInt8 × List UInt8) :=
  match bs.dropWhile (· != 10) with
  | [] => .unfinished
  | _ :: rest =>
    let line := bs.takeWhile (· != 10)
    .whole (if line.getLast? = some 13 then line.dropLast else line, rest)

/-- The lines up to an empty one, and what follows that. -/
def headLines (left : Nat) (bs : List UInt8) : Arrival (List (List UInt8) × List UInt8) := do
  let (line, rest) ← nextLine bs
  if line.isEmpty then return ([], rest)
  else match left with
    | 0 => .unreadable
    | left + 1 => do
      let (lines, rest) ← headLines left rest
      return (line :: lines, rest)

/-- A byte between the parts of a line. -/
def isGap (b : UInt8) : Bool := b = 32 || b = 9

/-- The bytes without the gaps at both ends. -/
def stripGaps (bs : List UInt8) : List UInt8 :=
  ((bs.dropWhile isGap).reverse.dropWhile isGap).reverse

/-- The header field of a line: a name, a colon, and a value between gaps. -/
def Header.ofLine? (line : List UInt8) : Option Header :=
  let name := line.takeWhile (· != 58)
  match line.dropWhile (· != 58) with
  | [] => none
  | _ :: value => if name.isEmpty || name.any isGap then none else some ⟨asciiOf name, stripGaps value⟩

/-- The head of a message, and what follows it. -/
def Head.read (bs : List UInt8) : Arrival (Head × List UInt8) := do
  let (line, rest) ← nextLine bs
  let (lines, rest) ← headLines maxHeadLines rest
  let headers ← Arrival.ofOption (lines.mapM Header.ofLine?)
  return (⟨asciiOf line, headers⟩, rest)

/-- The text of the first header field of a name. -/
def Head.text? (head : Head) (name : String) : Option String :=
  ((headersNamed name head.headers).head?).bind fun h => headerText? h.value

/-! ## Bodies -/

/-- The data of chunks up to an empty one. Each chunk shortens what is left, so as many steps as
there are bytes suffice. -/
def chunkData (left : Nat) (bs : List UInt8) : Arrival (List UInt8) := do
  let (line, rest) ← nextLine bs
  let digits := (asciiOf line).toList.takeWhile Hex.isDigit
  let size ← Arrival.ofOption (if digits.isEmpty then none else Hex.number? digits)
  if size = 0 then return []
  else match left with
    | 0 => .unreadable
    | left + 1 =>
      if rest.length < size + 2 then .unfinished
      else do
        let more ← chunkData left (rest.drop (size + 2))
        return rest.take size ++ more

/-- The body in what follows a head. Where the head does not say how it ends, it is all that comes
before the end of the connection if `untilEnd` holds, and empty if not. -/
def Head.body (head : Head) (untilEnd ended : Bool) (bs : List UInt8) : Arrival (List UInt8) :=
  match head.text? "transfer-encoding", head.text? "content-length" with
  | some _, _ => chunkData bs.length bs
  | none, some length => do
    let n ← Arrival.ofOption (Integer.digits? length.toList)
    if bs.length < n then .unfinished else return bs.take n
  | none, none =>
    if !untilEnd then .whole []
    else if ended then .whole bs
    else .unfinished

/-! ## Requests that come in -/

/-- The method and the target of a first line. -/
def requestLine? (line : String) : Option (String × String) :=
  match line.toList.splitOn ' ' with
  | [method, target, version] =>
    if version = "HTTP/1.1".toList || version = "HTTP/1.0".toList then
      some (String.ofList method, String.ofList target)
    else none
  | _ => none

/-- The request that has come. -/
def Request.ofBytes (bs : List UInt8) : Arrival Request := do
  let (head, rest) ← Head.read bs
  let (method, target) ← Arrival.ofOption (requestLine? head.line)
  let body ← head.body false false rest
  return ⟨method, target, head.headers, body⟩

/-! ## Responses that go out -/

/-- The phrase of a status. -/
def phrase (status : Nat) : String :=
  match status with
  | 200 => "OK"
  | 204 => "No Content"
  | 307 => "Temporary Redirect"
  | 400 => "Bad Request"
  | 401 => "Unauthorized"
  | 404 => "Not Found"
  | 405 => "Method Not Allowed"
  | 500 => "Internal Server Error"
  | 503 => "Service Unavailable"
  | _ => "Unknown"

/-- A line of a message. -/
def line (s : String) : List UInt8 := bytesOf s ++ [13, 10]

/-- The header field of a name with a text. -/
def headerLine (name value : String) : List UInt8 := line (name ++ ": " ++ value)

/-- The response as it goes out, after which the connection ends. -/
def Response.bytes (response : Response) : List UInt8 :=
  let body := bytesOf response.body
  line ("HTTP/1.1 " ++ String.ofList (Integer.digits response.status) ++ " " ++ phrase response.status) ++
    response.headers.flatMap (fun (name, value) => headerLine name value) ++
    (if response.status = 204 then []
      else headerLine "content-length" (String.ofList (Integer.digits body.length))) ++
    headerLine "connection" "close" ++ line "" ++ body

end Gatehouse.Http
