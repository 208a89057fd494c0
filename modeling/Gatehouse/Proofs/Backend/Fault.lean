/-
What an attempt at the identity service fails for, as far as the log can tell. Whatever a login sees and
logs of an attempt follows from its fault, or from the identity that it brings; gateways and broken bodies
are one fault, and so are all answers that cannot be used.
-/
import Gatehouse.Proofs.Backend.Attempt

namespace Gatehouse.Backend

open Gatehouse.Identity Gatehouse.Login Gatehouse.Log

/-! ## Faults -/

/-- What an attempt fails for. -/
inductive Fault where
  | late
  | failed (connect timeout : Bool)
  /-- A gateway answered, or the body broke off. -/
  | interrupted
  | refused (status : Nat)
  /-- The envelope tells of a refusal. -/
  | declined
  | malformed
  | unusable (e : IdentityError)
  deriving DecidableEq, Repr

/-- The failure that a fault is for the login. -/
def Fault.failure : Fault → AuthFailure
  | .late => .backendUnreachable
  | .failed _ _ => .backendUnreachable
  | .interrupted => .backendUnreachable
  | .refused _ => .backendRejected
  | .declined => .backendRejected
  | .malformed => .malformedResponse
  | .unusable _ => .malformedResponse

/-- What is logged of a fault before the login fails for it. -/
def Fault.events (timeoutMillis : Nat) : Fault → List Event
  | .late => [timedOut timeoutMillis]
  | .failed connect timeout => [requestFailed connect timeout]
  | .refused status => [loginRefused status]
  | .unusable e => [unusableRecord e]
  | _ => []

/-- The identity in a body, or what is wrong with it. -/
def identityOfBody (bytes : List UInt8) : Except Fault Identity :=
  match recordOfBody bytes with
  | .error (.rejected _) => .error .declined
  | .error (.unreachable _) => .error .interrupted
  | .error (.malformed _) => .error .malformed
  | .ok record => record.identity.mapError .unusable

/-- The identity that an attempt brings, or what it fails for. -/
def Attempt.identity : Attempt → Except Fault Identity
  | .late => .error .late
  | .inTime (.failed connect timeout) => .error (.failed connect timeout)
  | .inTime (.answered status body) =>
    if status = 502 ∨ status = 503 ∨ status = 504 then .error .interrupted
    else if ¬ (200 ≤ status ∧ status ≤ 299) then .error (.refused status)
    else match body with
      | .broken => .error .interrupted
      | .whole bytes => identityOfBody bytes

/-! ## Attempts with their events -/

/-- The reply that an attempt is taken for, with what the client of the identity service logs of it. -/
def Attempt.logged : Attempt → Logged Reply
  | .late => .silent .silence
  | .inTime outcome => Reply.answered <$> outcome.record

/-- An identity service that makes an attempt of an address and a password. -/
def attempting (attempts : EmailAddress → String → Attempt) : Service :=
  fun address password => (attempts address password).logged

/-- `Backend.service` on a network is `attempting` what `follow` comes to on it. -/
theorem service_eq (url : Url.WebUrl) (network : Network) :
    service url network = attempting fun address password =>
      .inTime (follow network maxRedirects [] (loginRequest url address password)).1 := by
  funext address password
  exact bind_pure_comp _ _

/-- What is seen and logged of an identity or a fault. -/
def reportOf (timeoutMillis : Nat) : Except Fault Identity → Logged (Except AuthFailure Identity)
  | .ok identity => .silent (.ok identity)
  | .error fault => ⟨.error fault.failure, fault.events timeoutMillis⟩

theorem identity_recordOfBody (bytes : List UInt8) (timeoutMillis : Nat) :
    (Reply.answered (recordOfBody bytes)).identity timeoutMillis = reportOf timeoutMillis (identityOfBody bytes) := by
  unfold identityOfBody
  cases recordOfBody bytes with
  | error e => cases e <;> rfl
  | ok record =>
    simp only [Reply.identity]
    cases record.identity <;> rfl

/-- All that is seen and logged of an attempt is its `identity`, or the `Fault` in its place. -/
theorem logged_bind_identity (attempt : Attempt) (timeoutMillis : Nat) :
    attempt.logged >>= Reply.identity timeoutMillis = reportOf timeoutMillis attempt.identity := by
  cases attempt with
  | late => rfl
  | inTime outcome =>
    cases outcome with
    | failed connect timeout => rfl
    | answered status body =>
      simp only [Attempt.logged, Attempt.identity]
      by_cases hgateway : status = 502 ∨ status = 503 ∨ status = 504
      · rw [record_of_gateway hgateway, if_pos hgateway]
        rfl
      · by_cases hsuccess : isSuccess status = true
        · rw [record_of_isSuccess hsuccess, if_neg hgateway, if_neg (not_not.2 (isSuccess_iff.1 hsuccess))]
          cases body with
          | broken => rfl
          | whole bytes => exact identity_recordOfBody bytes timeoutMillis
        · rw [record_of_refusal hgateway hsuccess, if_neg hgateway, if_pos (mt isSuccess_iff.2 hsuccess)]
          rfl

end Gatehouse.Backend
