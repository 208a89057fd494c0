/-
What the identity service may reply to a login: a record, a refusal, a reply that cannot be used, an
outage, or nothing at all.
-/
import Gatehouse.Identity.Record
import Gatehouse.Log.Event

namespace Gatehouse.Login

open Gatehouse.Identity Gatehouse.Log

/-- Why the identity service could not be reached. -/
inductive Outage where
  /-- A gateway on the way answered in its place. -/
  | gateway (status : Nat)
  /-- No complete answer came. -/
  | transport
  deriving DecidableEq, Repr

/-- What a reply lacks to be used. -/
inductive Defect where
  | envelope
  | missingData
  | data
  deriving DecidableEq, Repr

/-- Why the identity service gave no record. -/
inductive ServiceError where
  | rejected (status : Option Nat)
  | unreachable (cause : Outage)
  | malformed (cause : Defect)
  deriving DecidableEq, Repr

/-- What comes of a request to the identity service. -/
inductive Reply where
  | answered (result : Except ServiceError LoginRecord)
  | silence

/-- The identity service: its reply to an address and a password. -/
def Service : Type := EmailAddress → String → Logged Reply

/-- The status that an error shows. -/
def showStatus : Option Nat → String
  | none => "None"
  | some n => "Some(" ++ String.ofList (Text.Integer.digits n) ++ ")"

/-- The statuses of gateways that got no answer, with their phrases. -/
def gatewayPhrase? (status : Nat) : Option String :=
  if status = 502 then some "Bad Gateway"
  else if status = 503 then some "Service Unavailable"
  else if status = 504 then some "Gateway Timeout"
  else none

/-- The message of an outage. -/
def Outage.message : Outage → String
  | .gateway status =>
    "status " ++ String.ofList (Text.Integer.digits status) ++ " " ++ (gatewayPhrase? status).getD ""
  | .transport => "transport"

/-- The message of a defect. -/
def Defect.message : Defect → String
  | .envelope => "envelope"
  | .missingData => "missing data"
  | .data => "data"

/-- The message of a failed request. -/
def ServiceError.message : ServiceError → String
  | .rejected status => "identity backend rejected the login (status " ++ showStatus status ++ ")"
  | .unreachable cause => "identity backend unreachable: " ++ cause.message
  | .malformed cause => "identity backend returned a malformed response: " ++ cause.message

end Gatehouse.Login
