/-
Settings of the process, taken from its environment once, before anything else. A blank variable
counts as absent. The variables are checked in a fixed order, and the first that is missing or has
a value that cannot be used decides the error.
-/
import Gatehouse.Credentials
import Gatehouse.Log.Event
import Gatehouse.Login.Verify
import Gatehouse.Text.Integer
import Gatehouse.Time.Instant

namespace Gatehouse

open Gatehouse.Text Gatehouse.Time

/-! ## Variables -/

/-- A variable that the process is set by. -/
inductive Variable where
  | authSecret
  | backendUrl
  | listenAddress
  | sessionSeconds
  | minPasswordLength
  | backendTimeout
  | secureCookie
  | logFormat
  deriving DecidableEq, Repr

/-- The name of a variable in the environment. -/
def Variable.name : Variable → String
  | .authSecret => "AUTH_SECRET"
  | .backendUrl => "IDENTITY_BACKEND_URL"
  | .listenAddress => "LISTEN_ADDR"
  | .sessionSeconds => "SESSION_TTL_SECS"
  | .minPasswordLength => "MIN_PASSWORD_LENGTH"
  | .backendTimeout => "IDENTITY_BACKEND_TIMEOUT_MS"
  | .secureCookie => "SESSION_COOKIE_SECURE"
  | .logFormat => "LOG_FORMAT"

/-- Why an environment gives no settings. -/
inductive SettingsError where
  | missing (v : Variable)
  | invalid (v : Variable)
  deriving DecidableEq, Repr

/-- The message of a refused environment. -/
def SettingsError.message : SettingsError → String
  | .missing v => "environment variable `" ++ v.name ++ "` is not set"
  | .invalid v => "invalid value for environment variable `" ++ v.name ++ "`"

/-- An environment: the value of each name that is set. -/
abbrev Environment := String → Option String

/-- The value of a variable, unless it is blank. -/
def Environment.get (env : Environment) (v : Variable) : Option String :=
  (env v.name).filter fun s => !isBlankText s

/-! ## Settings -/

/-- The settings of the process. -/
structure Settings where
  listenAddress : String
  authSecret : String
  backendUrl : String
  backendTimeoutMillis : Nat
  sessionLifetime : Span
  minPasswordLength : Nat
  secureCookie : Bool
  logFormat : Log.Format
  deriving DecidableEq, Repr

/-- The least number of bytes of the secret. -/
def minSecretBytes : Nat := 32

/-- The longest session, a year of 365 days in seconds. -/
def maxSessionSeconds : Int := 31536000

/-- The lifetime of a session, seven days, where nothing else is set. -/
def defaultSessionSeconds : Int := 604800

/-- Where the process listens, where nothing else is set. -/
def defaultListenAddress : String := "0.0.0.0:8080"

/-- A value that is read from a variable after trimming it, or the default of an absent one. -/
def Environment.read {α : Type} (env : Environment) (v : Variable) (default : α)
    (parse : List Char → Option α) : Except SettingsError α :=
  match env.get v with
  | none => .ok default
  | some s =>
    match parse (strip s.toList) with
    | none => .error (.invalid v)
    | some a => .ok a

/-- A variable that must be set. -/
def Environment.require (env : Environment) (v : Variable) : Except SettingsError String :=
  match env.get v with
  | none => .error (.missing v)
  | some s => .ok s

/-- A number of an unsigned 64-bit word. -/
def unsigned? (cs : List Char) : Option Nat :=
  (Integer.natural? cs).filter fun n => decide (n ≤ Integer.maxUnsigned)

/-- A number of a signed 64-bit word. -/
def signed? (cs : List Char) : Option Int :=
  (Integer.integer? cs).filter fun i => decide (Integer.minSigned ≤ i ∧ i ≤ Integer.maxSigned)

/-- A lifetime in seconds, from one second to a year. -/
def sessionSeconds? (cs : List Char) : Option Int :=
  (signed? cs).filter fun i => decide (1 ≤ i ∧ i ≤ maxSessionSeconds)

/-- A time limit in milliseconds, which is not zero. -/
def timeoutMillis? (cs : List Char) : Option Nat := (unsigned? cs).filter fun n => decide (n ≠ 0)

/-- A truth value, in lower case. -/
def truthValue? (cs : List Char) : Option Bool :=
  if cs = "true".toList then some true else if cs = "false".toList then some false else none

/-- The settings of an environment. -/
def Settings.load (env : Environment) : Except SettingsError Settings := do
  let secret ← env.require .authSecret
  if secret.utf8ByteSize < minSecretBytes then throw (.invalid .authSecret)
  let url ← env.require .backendUrl
  let seconds ← env.read .sessionSeconds defaultSessionSeconds sessionSeconds?
  let minLength ← env.read .minPasswordLength defaultMinPasswordLength unsigned?
  let timeout ← env.read .backendTimeout Login.defaultTimeoutMillis timeoutMillis?
  let secure ← env.read .secureCookie false truthValue?
  let format ← env.read .logFormat Log.Format.fallback fun cs => Log.Format.ofName? (String.ofList cs)
  return { listenAddress := (env.get .listenAddress).getD defaultListenAddress
           authSecret := secret
           backendUrl := url
           backendTimeoutMillis := timeout
           sessionLifetime := .ofSeconds seconds
           minPasswordLength := minLength
           secureCookie := secure
           logFormat := format }

end Gatehouse
