/-
The program. It starts from its environment, listens, and answers one request on each connection;
the identity service is asked over connections of its own, within its time limit. What is said to
whom is decided elsewhere: here bytes are moved and the clock is read.
-/
import Gatehouse.App.Serve
import Gatehouse.Backend.Wire
import Gatehouse.Startup
import Std.Async.DNS
import Std.Async.TCP
import Std.Async.Timer
import Std.Time.DateTime.Timestamp

namespace Gatehouse.Main

open Gatehouse.Log Std.Async Std.Net

/-! ## Surroundings -/

/-- The instant now. -/
def now : IO Time.Instant := do
  return ⟨(← Std.Time.Timestamp.now).toNanosecondsSinceUnixEpoch.val⟩

/-- A nonce that was not used before, in all likelihood. -/
def randomNonce : IO Session.Nonce := do
  let bytes ← IO.getRandomBytes 12
  return .ofNat (bytes.toList.foldl (fun n b => n * 256 + b.toNat) 0)

/-- The names that the program looks up in its environment. -/
def names : List String :=
  filterVariable ::
    [Variable.authSecret, .backendUrl, .listenAddress, .sessionSeconds, .minPasswordLength,
      .backendTimeout, .secureCookie, .logFormat].map Variable.name

/-- The environment of the process. -/
def environment : IO Environment := do
  let values ← names.mapM fun name => do return (name, ← IO.getEnv name)
  return fun name => (values.lookup name).join

/-- How the program logs. -/
structure Log where
  format : Format
  filter : List Directive

/-- The events that the filter lets through, written out line by line. -/
def Log.write (log : Log) (events : List Event) : IO Unit := do
  let time := (← now).render
  let out ← IO.getStdout
  for event in events do
    if isEnabled log.filter programTarget event then
      out.putStrLn (event.line log.format programTarget time)
  out.flush

/-! ## Addresses -/

/-- The address of a host at a port. -/
def socketAddress (host : String) (port : UInt16) : Async SocketAddress := do
  match IPv4Addr.ofString host, IPv6Addr.ofString host with
  | some a, _ => return .v4 ⟨a, port⟩
  | none, some a => return .v6 ⟨a, port⟩
  | none, none =>
    match (← DNS.getAddrInfo host (toString port)).toList with
    | .v4 a :: _ => return .v4 ⟨a, port⟩
    | .v6 a :: _ => return .v6 ⟨a, port⟩
    | [] => throw (IO.userError "failed to lookup address information: Name or service not known")

/-- A host without the brackets around it. -/
def unbracketed (host : String) : String :=
  match host.toList with
  | '[' :: cs => String.ofList (if cs.getLast? = some ']' then cs.dropLast else cs)
  | _ => host

/-- The address of a socket, in its parts. -/
def listenAddress : SocketAddress → ListenAddress
  | .v4 a => ⟨toString a.addr, a.port.toNat⟩
  | .v6 a => ⟨"[" ++ toString a.addr ++ "]", a.port.toNat⟩

/-- A socket that listens at an address, and the address it got. -/
def listen (address : ListenAddress) : Async (TCP.Socket.Server × ListenAddress) := do
  let place ← socketAddress (unbracketed address.host) (UInt16.ofNat address.port)
  let server ← TCP.Socket.Server.mk
  server.bind place
  server.listen 1024
  return (server, listenAddress (← server.getSockName))

/-! ## The identity service -/

/-- How many bytes are received at once. -/
def receiveSize : UInt64 := 65536

/-- What comes back over a connection after some bytes, until it can be told what it makes. -/
partial def receive (client : TCP.Socket.Client) (before : List UInt8) : Async Backend.Delivery := do
  let more ← try client.recv? receiveSize catch _ => pure none
  let bytes := before ++ (more.map ByteArray.toList).getD []
  match Backend.Delivery.ofBytes? more.isNone bytes with
  | some delivery => return delivery
  | none => receive client bytes

/-- What comes of a request over a connection of its own. There are no secured connections. -/
def deliver (request : Backend.Request) : Async Backend.Delivery := do
  let authority := request.url.authority
  match request.url.scheme with
  | .https => return .failed true false
  | .http =>
    let connection ← try
        let host := unbracketed (String.ofList authority.host.write)
        let port := authority.port.getD request.url.scheme.port
        let client ← TCP.Socket.Client.mk
        client.connect (← socketAddress host (UInt16.ofNat port))
        pure (some client)
      catch _ => pure none
    match connection with
    | none => return .failed true false
    | some client =>
      try
        client.send request.bytes.toByteArray
        receive client []
      catch _ => return .failed false false

/-- A network whose first deliveries are known. -/
def known (deliveries : List Backend.Delivery) : Backend.Network := fun before _ =>
  (deliveries[before.length]?).getD (.failed false false)

/-- What the identity service makes of credentials, each request in turn being really made. -/
def ask (url : Url.WebUrl) (address : Identity.EmailAddress) (password : String) :
    Nat → List Backend.Delivery → Async (Logged (Except Login.ServiceError Identity.LoginRecord))
  | left, deliveries => do
    let (result, requests) := Backend.exchange url (known deliveries) address password
    match left, requests.drop deliveries.length with
    | left + 1, request :: _ => ask url address password left (deliveries ++ [← deliver request])
    | _, _ => return result

/-- No reply, where none is known. -/
instance : Inhabited (Logged Login.Reply) := ⟨.silent .silence⟩

/-- The reply of the identity service, or its silence once the time is up. -/
def reply (app : App) (address : Identity.EmailAddress) (password : String) : Async (Logged Login.Reply) :=
  Async.race
    (do
      let result ← ask app.loginUrl address password (Backend.maxRedirects + 1) []
      return .answered <$> result)
    (do
      sleep (.ofNat app.policy.timeoutMillis)
      return .silent .silence)

/-! ## Requests -/

/-- The program in service. -/
structure Program where
  app : App
  log : Log

/-- The response to a request. The identity service is asked only if the request asks for that. -/
def respond (program : Program) (request : Http.Request) : Async Http.Response := do
  let nonce ← randomNonce
  let time ← now
  let silent := App.handle program.app (fun _ _ => .silent .silence) nonce time request
  let response ← match silent.value.calls with
    | [] => pure silent
    | (address, password) :: _ => do
      let reply ← reply program.app address password
      pure (App.handle program.app (fun _ _ => reply) nonce time request)
  program.log.write response.events
  return response.value.result

/-- The request that comes over a connection, unless it cannot be read or is too long. -/
partial def receiveRequest (client : TCP.Socket.Client) (before : List UInt8) :
    Async (Option Http.Request) := do
  match ← client.recv? receiveSize with
  | none => return none
  | some more =>
    let bytes := before ++ more.toList
    match Http.Request.ofBytes bytes with
    | .whole request => return some request
    | .unreadable => return none
    | .unfinished => if bytes.length > 2 * App.maxBodyBytes then return none else receiveRequest client bytes

/-- One connection: a request and its response. -/
def serveConnection (program : Program) (client : TCP.Socket.Client) : Async Unit := do
  try
    match ← receiveRequest client [] with
    | none => pure ()
    | some request =>
      let response ← respond program request
      client.send response.bytes.toByteArray
    client.shutdown
  catch _ => pure ()

/-- All connections, as they come. -/
partial def serve (program : Program) (server : TCP.Socket.Server) : Async Unit := do
  let client ← server.accept
  background (serveConnection program client)
  serve program server

/-- The start of the program, and its service for as long as that lasts. -/
def run (env : Environment) : Async UInt32 := do
  let bound : Except BindError (TCP.Socket.Server × ListenAddress) ←
    match (start env .ok).result with
    | .error _ => pure (.error .noPort)
    | .ok (_, address) => try .ok <$> listen address catch e => pure (.error (.system (toString e)))
  let started := start env fun _ => bound.map (·.2)
  let log : Log := ⟨started.format, filterOf (env filterVariable)⟩
  log.write started.events
  match started.result, bound with
  | .ok (app, _), .ok (server, _) => do
    serve ⟨app, log⟩ server
    return 0
  | .error e, _ => do
    IO.eprint e.report
    return 1
  | .ok _, .error _ => return 1

end Gatehouse.Main

/-- Starts from the environment of the process. -/
def main : IO UInt32 := do
  (Gatehouse.Main.run (← Gatehouse.Main.environment)).block
