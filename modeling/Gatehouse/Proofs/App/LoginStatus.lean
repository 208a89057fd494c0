/-
The status that a login with credentials is answered with, from what the identity service makes of them. An
outage, an identity and everything else have a status of their own, whatever the answer was and wherever it
broke off; for an identity only the session can still be missing.
-/
import Gatehouse.Proofs.App.Failure
import Gatehouse.Proofs.Backend.Attempt

namespace Gatehouse.App

open Gatehouse.Backend Gatehouse.Http Gatehouse.Identity Gatehouse.Log Gatehouse.Login Gatehouse.Session Gatehouse.Text Gatehouse.Time

/-! ## Statuses -/

/-- The status that tells of what came of credentials. -/
def statusOf : Except LoginError IssuedSession → Nat
  | .ok _ => 200
  | .error .invalidCredentials => 401
  | .error .unavailable => 503
  | .error (.issuance _) => 500

section Statuses

variable {result : Except LoginError IssuedSession}

theorem statusOf_eq_200_iff : statusOf result = 200 ↔ ∃ issued, result = .ok issued := by
  rcases result with (_ | _ | e) | issued <;> simp [statusOf]

theorem statusOf_eq_401_iff : statusOf result = 401 ↔ result = .error .invalidCredentials := by
  rcases result with (_ | _ | e) | issued <;> simp [statusOf]

theorem statusOf_eq_500_iff : statusOf result = 500 ↔ ∃ e, result = .error (.issuance e) := by
  rcases result with (_ | _ | e) | issued <;> simp [statusOf]

theorem statusOf_eq_503_iff : statusOf result = 503 ↔ result = .error .unavailable := by
  rcases result with (_ | _ | e) | issued <;> simp [statusOf]

end Statuses

variable {app : App} {settings : Settings} {x : Exchange} {credentials : Credentials}

theorem status_response (hwired : app.Wired settings) (h : x.Submits credentials) :
    (x.response app).status = statusOf (x.outcome app credentials) := by
  cases houtcome : x.outcome app credentials with
  | error e =>
    rw [response_of_submits hwired h, houtcome]
    cases e <;> rfl
  | ok issued => exact status_of_outcome_ok hwired h houtcome

/-! ## What comes of an attempt -/

theorem reply?_of_passesChecks (hpasses : PassesChecks app.policy.minPasswordLength credentials)
    {address : EmailAddress} (haddress : address.text = trim credentials.email) :
    x.reply? app credentials = some (x.service address credentials.password).value := by
  unfold Exchange.reply?
  rw [check_eq_ok_iff.2 ⟨hpasses, haddress⟩]

section Attempts

variable {attempt : Attempt} (hreply : x.reply? app credentials = some attempt.reply)
include hreply

theorem outcome_eq_unavailable_iff : x.outcome app credentials = .error .unavailable ↔ attempt.IsOutage := by
  rw [outcome_of_reply? hreply, value_afterReply_eq_unavailable_iff, isOutage_reply_iff]

theorem outcome_of_identifies {identity : Identity} (h : attempt.Identifies identity) :
    x.outcome app credentials =
      (issueSession app.issuer.secret x.nonce identity none app.issuer.lifetime x.instant).mapError .issuance := by
  obtain ⟨record, hbrings, hidentity⟩ := h
  rw [outcome_of_reply? hreply, reply_eq_ok_iff.2 hbrings, value_afterReply_of_identity _ _ _ _ hidentity]

theorem outcome_eq_invalidCredentials_iff :
    x.outcome app credentials = .error .invalidCredentials ↔
      ¬ attempt.IsOutage ∧ ¬ ∃ identity, attempt.Identifies identity := by
  constructor
  · intro h
    constructor
    · intro houtage
      rw [(outcome_eq_unavailable_iff hreply).2 houtage] at h
      cases h
    · rintro ⟨identity, hidentifies⟩
      rw [outcome_of_identifies hreply hidentifies] at h
      exact absurd h (mapError_issuance_ne (.inr rfl))
  · rintro ⟨houtage, hidentifies⟩
    rw [outcome_of_reply? hreply]
    rcases reply_cases attempt.reply with h | h | ⟨record, identity, h, hidentity⟩
    · exact absurd (isOutage_reply_iff.1 h) houtage
    · exact value_afterReply_of_isRefusal _ _ _ _ h
    · exact absurd ⟨identity, record, reply_eq_ok_iff.1 h, hidentity⟩ hidentifies

theorem outcome_eq_mapError_iff {result : Except TokenError IssuedSession} :
    x.outcome app credentials = result.mapError .issuance ↔
      ∃ identity, attempt.Identifies identity ∧
        issueSession app.issuer.secret x.nonce identity none app.issuer.lifetime x.instant = result := by
  constructor
  · intro h
    by_cases hidentifies : ∃ identity, attempt.Identifies identity
    · obtain ⟨identity, hidentity⟩ := hidentifies
      refine ⟨identity, hidentity, ?_⟩
      rw [outcome_of_identifies hreply hidentity] at h
      exact mapError_injective (fun _ _ => LoginError.issuance.inj) h
    · by_cases houtage : attempt.IsOutage
      · rw [(outcome_eq_unavailable_iff hreply).2 houtage] at h
        exact absurd h.symm (mapError_issuance_ne (.inl rfl))
      · rw [(outcome_eq_invalidCredentials_iff hreply).2 ⟨houtage, hidentifies⟩] at h
        exact absurd h.symm (mapError_issuance_ne (.inr rfl))
  · rintro ⟨identity, hidentity, rfl⟩
    exact outcome_of_identifies hreply hidentity

end Attempts

/-- The status of a login whose credentials pass `PassesChecks`, by the `Attempt` that the service makes of them: 503
exactly if it `IsOutage`, which is no answer in time or none at all, a gateway's 502, 503 or 504, or a success whose
body broke off; 200 exactly if it `Identifies` an identity for which `issueSession` succeeds, and 500 if it fails; 401
in every other case. Every 503 is the same response, and every 401 is `refusedLogin`. -/
theorem login_status_exact (happ : App.ofSettings settings = .ok app) {address : EmailAddress} {attempt : Attempt}
    (hsubmits : x.Submits credentials) (hpasses : PassesChecks app.policy.minPasswordLength credentials)
    (haddress : address.text = trim credentials.email)
    (hservice : (x.service address credentials.password).value = attempt.reply) :
    ((x.response app).status = 503 ↔ attempt.IsOutage) ∧
    ((x.response app).status = 200 ↔ ∃ issued identity, attempt.Identifies identity ∧
      issueSession app.issuer.secret x.nonce identity none app.issuer.lifetime x.instant = .ok issued) ∧
    ((x.response app).status = 500 ↔ ∃ e identity, attempt.Identifies identity ∧
      issueSession app.issuer.secret x.nonce identity none app.issuer.lifetime x.instant = .error e) ∧
    ((x.response app).status = 401 ↔ ¬ attempt.IsOutage ∧ ¬ ∃ identity, attempt.Identifies identity) ∧
    ((x.response app).status = 503 →
      x.response app = .error 503 "backend_unavailable" "identity service unavailable") ∧
    ((x.response app).status = 401 → x.response app = refusedLogin) := by
  have hwired := App.wired_of_ofSettings happ
  have hreply : x.reply? app credentials = some attempt.reply := by
    rw [reply?_of_passesChecks hpasses haddress, hservice]
  rw [status_response hwired hsubmits, statusOf_eq_503_iff, statusOf_eq_200_iff, statusOf_eq_500_iff,
    statusOf_eq_401_iff]
  refine ⟨outcome_eq_unavailable_iff hreply, ?_, ?_, outcome_eq_invalidCredentials_iff hreply, ?_, ?_⟩
  · exact exists_congr fun issued => @outcome_eq_mapError_iff app x credentials attempt hreply (.ok issued)
  · exact exists_congr fun e => @outcome_eq_mapError_iff app x credentials attempt hreply (.error e)
  · intro houtcome
    rw [response_of_submits hwired hsubmits, houtcome]
    rfl
  · intro houtcome
    rw [response_of_submits hwired hsubmits, houtcome]
    rfl

/-- A network that redirects the first request, and answers the next. -/
def redirectingNetwork (status : Nat) (body : Body) : Network := fun before _ =>
  match before with
  | [] => .answer 307 (some "/v2/login") (.whole [])
  | _ => .answer status none body

/-- The first login of 1970, over a network. -/
def loginOver (network : Network) : Exchange :=
  { firstLogin with service := Backend.service localApp.loginUrl network }

/-- The body of an answer that a login succeeded. -/
def successBody : List UInt8 :=
  bytesOf ("\x7b\"success\":true,\"data\":\x7b\"user\":\x7b\"id\":\"00000000-0000-0000-0000-000000000007\"," ++
    "\"email\":\"a@example.com\",\"onboardingCompleted\":true\x7d\x7d\x7d")

/-- Behind one redirect, a success whose body breaks off is a 503, a whole one is a 200, and a 404 whose body breaks
off is a 401. -/
theorem login_status_exact_redirected :
    ((loginOver (redirectingNetwork 200 .broken)).response localApp).status = 503 ∧
    ((loginOver (redirectingNetwork 200 (.whole successBody))).response localApp).status = 200 ∧
    ((loginOver (redirectingNetwork 404 .broken)).response localApp).status = 401 := by
  obtain ⟨settings, -, happ⟩ := ofSettings_local
  have hsubmits : ∀ network, (loginOver network).Submits ⟨"a@example.com", "secret"⟩ := by
    intro network
    refine ⟨logsIn_firstLogin.1, ?_⟩
    show credentialsOf? firstLogin.request = _
    decide +kernel
  have hpasses : PassesChecks localApp.policy.minPasswordLength ⟨"a@example.com", "secret"⟩ := by decide +kernel
  let address : EmailAddress := ⟨"a@example.com", by decide +kernel, by decide +kernel⟩
  have haddress : address.text = trim "a@example.com" := by decide +kernel
  have hfollow : ∀ status body, (follow (redirectingNetwork status body) maxRedirects []
      (loginRequest localApp.loginUrl address "secret")).1 = .answered status body →
      ((loginOver (redirectingNetwork status body)).service address "secret").value =
        (Attempt.inTime (.answered status body)).reply := by
    intro status body hfollow
    rw [loginOver, value_service, hfollow]
  obtain ⟨hbroken, -⟩ := login_status_exact happ (hsubmits _) hpasses haddress
    (hfollow 200 .broken (by decide +kernel))
  obtain ⟨-, hwhole, -⟩ := login_status_exact happ (hsubmits _) hpasses haddress
    (hfollow 200 (.whole successBody) (by decide +kernel))
  obtain ⟨-, -, -, hrefused, -⟩ := login_status_exact happ (hsubmits _) hpasses haddress
    (hfollow 404 .broken (by decide +kernel))
  have hidentifies : (Attempt.inTime (.answered 200 (.whole successBody))).Identifies
      ⟨⟨7⟩, "a@example.com", "a@example.com", none, .member, true⟩ := by
    have hrecord : recordOfBody successBody =
        .ok ⟨⟨"00000000-0000-0000-0000-000000000007", "a@example.com", none, none, none, true⟩, none⟩ := by
      decide +kernel
    obtain ⟨data, henvelope, hdata⟩ := recordOfBody_eq_ok_iff.1 hrecord
    exact ⟨_, ⟨200, successBody, data, rfl, by decide, henvelope, hdata⟩, by decide +kernel⟩
  have hlife : IsLifetime firstLogin.instant localApp.issuer.lifetime := by decide +kernel
  obtain ⟨issued, hissue⟩ := exists_issueSession localApp.issuer.secret firstLogin.nonce
    ⟨⟨7⟩, "a@example.com", "a@example.com", none, .member, true⟩ none hlife
  refine ⟨hbroken.2 (.broken (by decide)), hwhole.2 ⟨issued, _, hidentifies, hissue⟩, hrefused.2 ⟨?_, ?_⟩⟩
  · intro houtage
    cases houtage with
    | gateway h => omega
    | broken h => omega
  · rintro ⟨identity, record, ⟨status, bytes, data, hwhole, -⟩, -⟩
    cases hwhole

end Gatehouse.App
