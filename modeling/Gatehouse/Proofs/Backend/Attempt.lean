/-
One attempt to log in at the identity service, redirects followed: no answer in time, no answer at all, or
an answer. It is an outage, or it brings a record, or it is refused; which of them is decided by the status
and by whether the body could be read, and only then by what the body says.
-/
import Gatehouse.Backend.Exchange
import Gatehouse.Proofs.Login.Outcome

namespace Gatehouse.Backend

open Gatehouse.Identity Gatehouse.Login Gatehouse.Log

/-! ## Attempts -/

/-- What comes of credentials passed on: nothing until the time is up, or what comes of the last request before. -/
inductive Attempt where
  | late
  | inTime (outcome : Outcome)
  deriving DecidableEq, Repr

/-- The reply that an attempt is taken for. -/
def Attempt.reply : Attempt → Reply
  | .late => .silence
  | .inTime outcome => .answered outcome.record.value

@[simp] theorem reply_inTime (outcome : Outcome) :
    (Attempt.inTime outcome).reply = .answered outcome.record.value :=
  rfl

/-- No answer came, or a gateway answered in place of the service, or the body of a success broke off. -/
inductive Attempt.IsOutage : Attempt → Prop
  | late : IsOutage .late
  | failed (connect timeout : Bool) : IsOutage (.inTime (.failed connect timeout))
  | gateway {status : Nat} (h : status = 502 ∨ status = 503 ∨ status = 504) (body : Body) :
    IsOutage (.inTime (.answered status body))
  | broken {status : Nat} (h : 200 ≤ status ∧ status ≤ 299) : IsOutage (.inTime (.answered status .broken))

/-- The attempt ends in a success whose body is an envelope that marks it and holds the record. -/
def Attempt.Brings (attempt : Attempt) (record : LoginRecord) : Prop :=
  ∃ status bytes data, attempt = .inTime (.answered status (.whole bytes)) ∧ (200 ≤ status ∧ status ≤ 299) ∧
    Envelope.ofBody? bytes = some ⟨true, some data⟩ ∧ LoginRecord.ofJson? (settle data) = some record

/-- The attempt brings a record that makes the identity. -/
def Attempt.Identifies (attempt : Attempt) (identity : Identity) : Prop :=
  ∃ record, attempt.Brings record ∧ record.identity = .ok identity

theorem value_service (url : Url.WebUrl) (network : Network) (address : EmailAddress) (password : String) :
    (service url network address password).value =
      (Attempt.inTime (follow network maxRedirects [] (loginRequest url address password)).1).reply :=
  rfl

/-! ## Classes of answers -/

theorem isSome_gatewayPhrase?_iff {status : Nat} :
    (gatewayPhrase? status).isSome = true ↔ status = 502 ∨ status = 503 ∨ status = 504 := by
  unfold gatewayPhrase?
  split_ifs with h502 h503 h504
  · simp [h502]
  · simp [h503]
  · simp [h504]
  · simp [h502, h503, h504]

theorem isSuccess_iff {status : Nat} : isSuccess status = true ↔ 200 ≤ status ∧ status ≤ 299 := by
  unfold isSuccess
  rw [Bool.and_eq_true, decide_eq_true_eq, decide_eq_true_eq]

theorem recordOfBody_eq_ok_iff {bytes : List UInt8} {record : LoginRecord} :
    recordOfBody bytes = .ok record ↔
      ∃ data, Envelope.ofBody? bytes = some ⟨true, some data⟩ ∧ LoginRecord.ofJson? (settle data) = some record := by
  unfold recordOfBody
  constructor
  · intro h
    split at h
    · cases h
    · cases h
    · cases h
    · rename_i data henvelope
      refine ⟨data, henvelope, ?_⟩
      cases hrecord : LoginRecord.ofJson? (settle data) with
      | none =>
        rw [hrecord] at h
        cases h
      | some found =>
        rw [hrecord] at h
        cases h
        rfl
  · rintro ⟨data, henvelope, hrecord⟩
    rw [henvelope]
    simp only [hrecord]

theorem recordOfBody_ne_unreachable (bytes : List UInt8) (cause : Outage) :
    recordOfBody bytes ≠ .error (.unreachable cause) := by
  unfold recordOfBody
  split
  · exact nofun
  · exact nofun
  · exact nofun
  · split
    · exact nofun
    · exact nofun

variable {status : Nat} {body : Body}

theorem not_gateway_of_isSuccess (h : isSuccess status = true) :
    ¬ (status = 502 ∨ status = 503 ∨ status = 504) := by
  obtain ⟨-, hle⟩ := isSuccess_iff.1 h
  omega

theorem record_of_gateway (h : status = 502 ∨ status = 503 ∨ status = 504) (body : Body) :
    (Outcome.answered status body).record = .silent (.error (.unreachable (.gateway status))) := by
  simp only [Outcome.record]
  rw [if_pos (isSome_gatewayPhrase?_iff.2 h)]

theorem record_of_refusal (hgateway : ¬ (status = 502 ∨ status = 503 ∨ status = 504))
    (hsuccess : ¬ isSuccess status = true) (body : Body) :
    (Outcome.answered status body).record = ⟨.error (.rejected (some status)), [loginRefused status]⟩ := by
  simp only [Outcome.record]
  rw [if_neg (mt isSome_gatewayPhrase?_iff.1 hgateway), if_pos (by simp [hsuccess])]

theorem record_of_isSuccess (h : isSuccess status = true) (body : Body) :
    (Outcome.answered status body).record =
      .silent (match body with
        | .broken => .error (.unreachable .transport)
        | .whole bytes => recordOfBody bytes) := by
  simp only [Outcome.record]
  rw [if_neg (mt isSome_gatewayPhrase?_iff.1 (not_gateway_of_isSuccess h)), if_neg (by simp [h])]
  cases body <;> rfl

theorem value_record_of_gateway (h : status = 502 ∨ status = 503 ∨ status = 504) (body : Body) :
    (Outcome.answered status body).record.value = .error (.unreachable (.gateway status)) := by
  rw [record_of_gateway h]
  rfl

theorem value_record_of_refusal (hgateway : ¬ (status = 502 ∨ status = 503 ∨ status = 504))
    (hsuccess : ¬ isSuccess status = true) (body : Body) :
    (Outcome.answered status body).record.value = .error (.rejected (some status)) := by
  rw [record_of_refusal hgateway hsuccess]

theorem value_record_of_isSuccess (h : isSuccess status = true) (body : Body) :
    (Outcome.answered status body).record.value =
      match body with
      | .broken => .error (.unreachable .transport)
      | .whole bytes => recordOfBody bytes := by
  rw [record_of_isSuccess h]
  rfl

/-! ## Classes of attempts -/

/-- An attempt `IsOutage`, or has a status of neither a gateway nor success, or is a success with a whole body. -/
theorem attempt_cases (attempt : Attempt) :
    attempt.IsOutage ∨
      (∃ status body, attempt = .inTime (.answered status body) ∧
        ¬ (status = 502 ∨ status = 503 ∨ status = 504) ∧ ¬ isSuccess status = true) ∨
      ∃ status bytes, attempt = .inTime (.answered status (.whole bytes)) ∧ isSuccess status = true := by
  cases attempt with
  | late => exact .inl .late
  | inTime outcome =>
    cases outcome with
    | failed connect timeout => exact .inl (.failed connect timeout)
    | answered status body =>
      by_cases hgateway : status = 502 ∨ status = 503 ∨ status = 504
      · exact .inl (.gateway hgateway body)
      · by_cases hsuccess : isSuccess status = true
        · cases body with
          | whole bytes => exact .inr (.inr ⟨status, bytes, rfl, hsuccess⟩)
          | broken => exact .inl (.broken (isSuccess_iff.1 hsuccess))
        · exact .inr (.inl ⟨status, body, rfl, hgateway, hsuccess⟩)

theorem isOutage_reply {attempt : Attempt} (h : attempt.IsOutage) : Login.IsOutage attempt.reply := by
  cases h with
  | late => exact .inl rfl
  | failed connect timeout => exact .inr ⟨.transport, rfl⟩
  | gateway h body => exact .inr ⟨_, congrArg Reply.answered (value_record_of_gateway h body)⟩
  | broken h => exact .inr ⟨.transport, congrArg Reply.answered (value_record_of_isSuccess (isSuccess_iff.2 h) _)⟩

theorem isOutage_reply_iff {attempt : Attempt} : Login.IsOutage attempt.reply ↔ attempt.IsOutage := by
  refine ⟨fun h => ?_, isOutage_reply⟩
  rcases attempt_cases attempt with houtage | ⟨status, body, rfl, hgateway, hsuccess⟩ | ⟨status, bytes, rfl, hsuccess⟩
  · exact houtage
  · rw [reply_inTime, value_record_of_refusal hgateway hsuccess] at h
    obtain hsilence | ⟨cause, hcause⟩ := h
    · cases hsilence
    · cases hcause
  · rw [reply_inTime, value_record_of_isSuccess hsuccess] at h
    obtain hsilence | ⟨cause, hcause⟩ := h
    · cases hsilence
    · exact absurd (Reply.answered.inj hcause) (recordOfBody_ne_unreachable bytes cause)

theorem reply_eq_ok_iff {attempt : Attempt} {record : LoginRecord} :
    attempt.reply = .answered (.ok record) ↔ attempt.Brings record := by
  constructor
  · intro h
    rcases attempt_cases attempt with
      houtage | ⟨status, body, rfl, hgateway, hsuccess⟩ | ⟨status, bytes, rfl, hsuccess⟩
    · have hreply := isOutage_reply houtage
      rw [h] at hreply
      obtain hsilence | ⟨cause, hcause⟩ := hreply
      · cases hsilence
      · cases hcause
    · rw [reply_inTime, value_record_of_refusal hgateway hsuccess] at h
      cases h
    · rw [reply_inTime, value_record_of_isSuccess hsuccess] at h
      obtain ⟨data, henvelope, hrecord⟩ := recordOfBody_eq_ok_iff.1 (Reply.answered.inj h)
      exact ⟨status, bytes, data, rfl, isSuccess_iff.1 hsuccess, henvelope, hrecord⟩
  · rintro ⟨status, bytes, data, rfl, hsuccess, henvelope, hrecord⟩
    rw [reply_inTime, value_record_of_isSuccess (isSuccess_iff.2 hsuccess)]
    exact congrArg Reply.answered (recordOfBody_eq_ok_iff.2 ⟨data, henvelope, hrecord⟩)

end Gatehouse.Backend
