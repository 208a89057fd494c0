/-
Start-up: the settings are taken from the environment, the application is put together, and the
address is bound, in that order; the first step that fails ends the process, which then says why.
Whatever is logged on the way passes the filter that the environment sets.
-/
import Gatehouse.App.Basic
import Gatehouse.Log.Event
import Gatehouse.Log.Filter

namespace Gatehouse

open Gatehouse.Text Gatehouse.Log

/-! ## Addresses -/

/-- Where the process listens. -/
structure ListenAddress where
  host : String
  port : Nat
  deriving DecidableEq, Repr

/-- Why an address cannot be bound. -/
inductive BindError where
  | noPort
  | invalidPort
  | system (message : String)
  deriving DecidableEq, Repr

/-- The message of an address that cannot be bound. -/
def BindError.message : BindError → String
  | .noPort => "invalid socket address"
  | .invalidPort => "invalid port value"
  | .system s => s

/-- The host before the last colon, and the port after it. -/
def ListenAddress.parse (s : String) : Except BindError ListenAddress :=
  let cs := s.toList
  let port := (cs.reverse.takeWhile (· != ':')).reverse
  if port.length = cs.length then .error .noPort
  else match (Integer.natural? port).filter (· ≤ 65535) with
    | none => .error .invalidPort
    | some n => .ok ⟨String.ofList (cs.take (cs.length - port.length - 1)), n⟩

/-- The address with its port. -/
def ListenAddress.render (a : ListenAddress) : String :=
  a.host ++ ":" ++ String.ofList (Integer.digits a.port)

/-! ## Failing to start -/

/-- Why the process did not start. -/
inductive StartError where
  | settings (cause : SettingsError)
  | wiring (cause : SettingsError)
  | bind (address : String) (cause : BindError)
  deriving DecidableEq, Repr

/-- A failure with the cause below it. -/
def withCause (failure cause : String) : String :=
  "Error: " ++ failure ++ "\n\nCaused by:\n    " ++ cause ++ "\n"

/-- What the process says when it does not start. -/
def StartError.report : StartError → String
  | .settings e => "Error: " ++ e.message ++ "\n"
  | .wiring e => withCause "failed to wire application state" e.message
  | .bind address e => withCause ("failed to bind " ++ address) e.message

/-! ## Starting -/

/-- The settings were refused. -/
def startRefused (e : SettingsError) : Event :=
  ⟨.error, "refusing to start: invalid configuration", [("error", .text e.message)]⟩

/-- The process listens. -/
def listening (settings : Settings) (address : String) : Event :=
  ⟨.info, "listening",
    [("addr", .text address), ("identity_backend", .text settings.backendUrl),
     ("session_ttl_secs", .integer settings.sessionLifetime.seconds)]⟩

/-- The target that events are logged under. -/
def programTarget : String := "dashgate_api"

/-- The variable that sets the log filter. -/
def filterVariable : String := "RUST_LOG"

/-- What comes of starting: events, the form they are logged in, and the application with the address
it is bound to, or why there is none. -/
structure Start where
  format : Format
  events : List Event
  result : Except StartError (App × ListenAddress)

/-- The start of the process in an environment, where binding an address gives the one that is really
bound. -/
def start (env : Environment) (bind : ListenAddress → Except BindError ListenAddress) : Start :=
  match Settings.load env with
  | .error e => ⟨.fallback, [startRefused e], .error (.settings e)⟩
  | .ok settings =>
    match App.ofSettings settings with
    | .error e => ⟨settings.logFormat, [], .error (.wiring e)⟩
    | .ok app =>
      match (ListenAddress.parse settings.listenAddress).bind bind with
      | .error e => ⟨settings.logFormat, [], .error (.bind settings.listenAddress e)⟩
      | .ok bound => ⟨settings.logFormat, [listening settings bound.render], .ok (app, bound)⟩

/-- The events of a start that the environment's filter lets through. -/
def Start.logged (s : Start) (env : Environment) : List Event :=
  s.events.filter fun e => isEnabled (filterOf (env filterVariable)) programTarget e

end Gatehouse
