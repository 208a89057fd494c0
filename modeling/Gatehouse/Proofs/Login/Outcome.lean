/-
What comes of a login. Credentials that fail the local checks never reach the identity service; all
others are asked of it once, and its reply alone decides what follows. An outage is told apart from
everything else, and a session is issued for the identity of the record and for nothing else.
-/
import Gatehouse.Login.Issue
import Gatehouse.Proofs.Except
import Gatehouse.Proofs.Identity.Email
import Gatehouse.Proofs.Log.Event

namespace Gatehouse.Login

open Gatehouse.Identity Gatehouse.Log Gatehouse.Session Gatehouse.Text Gatehouse.Time

/-! ## Local checks -/

/-- The local checks: the email without the blanks around it is an address, and a password is there and has at least
the least number of characters. -/
structure PassesChecks (minPasswordLength : Nat) (credentials : Credentials) : Prop where
  email : IsAddress (trim credentials.email)
  password : credentials.password ≠ ""
  length : minPasswordLength ≤ credentials.password.length

instance (minPasswordLength : Nat) (credentials : Credentials) : Decidable (PassesChecks minPasswordLength credentials) :=
  decidable_of_iff (IsAddress (trim credentials.email) ∧ credentials.password ≠ "" ∧
    minPasswordLength ≤ credentials.password.length) ⟨fun h => ⟨h.1, h.2.1, h.2.2⟩, fun h => ⟨h.1, h.2, h.3⟩⟩

theorem check_eq_ok_iff {minPasswordLength : Nat} {credentials : Credentials} {address : EmailAddress} :
    credentials.check minPasswordLength = .ok address ↔
      PassesChecks minPasswordLength credentials ∧ address.text = trim credentials.email := by
  constructor
  · intro h
    unfold Credentials.check at h
    cases hparse : EmailAddress.parse credentials.email with
    | error e =>
      rw [hparse] at h
      split_ifs at h
    | ok found =>
      rw [hparse] at h
      simp only at h
      split_ifs at h with hmissing hlength
      cases h
      have htext := parse_eq_ok_iff.1 hparse
      refine ⟨⟨htext ▸ address.isAddress, ?_, Nat.le_of_not_lt hlength⟩, htext⟩
      intro hpassword
      simp [hpassword] at hmissing
  · rintro ⟨⟨hemail, hpassword, hlength⟩, htext⟩
    have hblank : ¬ isBlankText credentials.email = true := fun h => not_isAddress_of_isBlankText h hemail
    have hmissing : ¬ (isBlankText credentials.email || credentials.password.isEmpty) = true := by
      simp [hblank, hpassword]
    unfold Credentials.check
    rw [if_neg hmissing, parse_eq_ok_iff.2 htext]
    exact if_neg (Nat.not_lt.2 hlength)

theorem exists_check_of_passesChecks {minPasswordLength : Nat} {credentials : Credentials}
    (h : PassesChecks minPasswordLength credentials) :
    ∃ address, credentials.check minPasswordLength = .ok address ∧ address.text = trim credentials.email :=
  ⟨⟨trim credentials.email, h.email.isAddress, h.email.length_le⟩, check_eq_ok_iff.2 ⟨h, rfl⟩, rfl⟩

theorem exists_error_of_not_passesChecks {minPasswordLength : Nat} {credentials : Credentials}
    (h : ¬ PassesChecks minPasswordLength credentials) : ∃ e, credentials.check minPasswordLength = .error e := by
  cases hcheck : credentials.check minPasswordLength with
  | error e => exact ⟨e, rfl⟩
  | ok address => exact absurd (check_eq_ok_iff.1 hcheck).1 h

/-! ## What follows a reply -/

variable (policy : Policy) (issuer : Issuer) (nonce : Nonce) (now : Instant)

/-- What follows once the identity service has replied. -/
def afterReply (reply : Reply) : Logged (Except LoginError IssuedSession) := do
  match ← reply.identity policy.timeoutMillis with
  | .error f => do
    Logged.tell (loginFailed f)
    return .error (.ofFailure f)
  | .ok identity => issueFor issuer nonce (.verified identity) now

/-- A reply that tells of an outage, or none at all. -/
def IsOutage (reply : Reply) : Prop := reply = .silence ∨ ∃ cause, reply = .answered (.error (.unreachable cause))

/-- A reply that brings no identity: a refusal, one that cannot be used, or a record that makes no identity. -/
def IsRefusal (reply : Reply) : Prop :=
  (∃ status, reply = .answered (.error (.rejected status))) ∨ (∃ cause, reply = .answered (.error (.malformed cause))) ∨
    ∃ record e, reply = .answered (.ok record) ∧ record.identity = .error e

/-- A reply `IsOutage`, or `IsRefusal`, or brings an identity. -/
theorem reply_cases (reply : Reply) :
    IsOutage reply ∨ IsRefusal reply ∨
      ∃ record identity, reply = .answered (.ok record) ∧ record.identity = .ok identity := by
  cases reply with
  | silence => exact .inl (.inl rfl)
  | answered result =>
    cases result with
    | error e =>
      cases e with
      | rejected status => exact .inr (.inl (.inl ⟨status, rfl⟩))
      | unreachable cause => exact .inl (.inr ⟨cause, rfl⟩)
      | malformed cause => exact .inr (.inl (.inr (.inl ⟨cause, rfl⟩)))
    | ok record =>
      cases hidentity : record.identity with
      | error e => exact .inr (.inl (.inr (.inr ⟨record, e, rfl, hidentity⟩)))
      | ok identity => exact .inr (.inr ⟨record, identity, rfl, hidentity⟩)

theorem value_afterReply_of_isOutage {reply : Reply} (h : IsOutage reply) :
    (afterReply policy issuer nonce now reply).value = .error .unavailable := by
  rcases h with rfl | ⟨cause, rfl⟩
  · rfl
  · rfl

theorem value_afterReply_of_isRefusal {reply : Reply} (h : IsRefusal reply) :
    (afterReply policy issuer nonce now reply).value = .error .invalidCredentials := by
  rcases h with ⟨status, rfl⟩ | ⟨cause, rfl⟩ | ⟨record, e, rfl, hidentity⟩
  · rfl
  · rfl
  · unfold afterReply Reply.identity
    simp only [hidentity, value_bind]
    rfl

/-- For a verified identity `issueFor` gives what `issueSession` gives without a provider account. -/
theorem value_issueFor_verified (identity : Identity) :
    (issueFor issuer nonce (.verified identity) now).value =
      (issueSession issuer.secret nonce identity none issuer.lifetime now).mapError .issuance := by
  simp only [issueFor, Source.identity, Source.account]
  cases issueSession issuer.secret nonce identity none issuer.lifetime now <;> rfl

theorem value_afterReply_of_identity {record : LoginRecord} {identity : Identity}
    (h : record.identity = .ok identity) :
    (afterReply policy issuer nonce now (.answered (.ok record))).value =
      (issueSession issuer.secret nonce identity none issuer.lifetime now).mapError .issuance := by
  unfold afterReply Reply.identity
  simp only [h, value_bind, Logged.silent]
  exact value_issueFor_verified issuer nonce now identity

theorem mapError_issuance_ne {result : Except TokenError IssuedSession} {e : LoginError}
    (h : e = .unavailable ∨ e = .invalidCredentials) : result.mapError .issuance ≠ .error e := by
  cases result with
  | error cause => rcases h with rfl | rfl <;> exact nofun
  | ok issued => exact nofun

theorem value_afterReply_eq_unavailable_iff {reply : Reply} :
    (afterReply policy issuer nonce now reply).value = .error .unavailable ↔ IsOutage reply := by
  constructor
  · intro h
    rcases reply_cases reply with houtage | hrefusal | ⟨record, identity, rfl, hidentity⟩
    · exact houtage
    · rw [value_afterReply_of_isRefusal policy issuer nonce now hrefusal] at h
      cases h
    · rw [value_afterReply_of_identity policy issuer nonce now hidentity] at h
      exact absurd h (mapError_issuance_ne (.inl rfl))
  · exact value_afterReply_of_isOutage policy issuer nonce now

theorem value_afterReply_eq_invalidCredentials_iff {reply : Reply} :
    (afterReply policy issuer nonce now reply).value = .error .invalidCredentials ↔ IsRefusal reply := by
  constructor
  · intro h
    rcases reply_cases reply with houtage | hrefusal | ⟨record, identity, rfl, hidentity⟩
    · rw [value_afterReply_of_isOutage policy issuer nonce now houtage] at h
      cases h
    · exact hrefusal
    · rw [value_afterReply_of_identity policy issuer nonce now hidentity] at h
      exact absurd h (mapError_issuance_ne (.inr rfl))
  · exact value_afterReply_of_isRefusal policy issuer nonce now

/-! ## Logins -/

theorem login_of_check_error {credentials : Credentials} {e : CredentialError}
    (h : credentials.check policy.minPasswordLength = .error e) (service : Service) :
    login policy issuer service credentials nonce now =
      ⟨⟨.error .invalidCredentials, []⟩, [loginFailed (.ofCredentialError e)]⟩ := by
  unfold login verify
  rw [h]
  cases e <;> rfl

/-- Credentials that pass `Credentials.check` are asked of the service once, and `afterReply` decides the rest. -/
theorem login_of_check_ok {credentials : Credentials} {address : EmailAddress}
    (h : credentials.check policy.minPasswordLength = .ok address) (service : Service) :
    login policy issuer service credentials nonce now = do
      let reply ← service address credentials.password
      let result ← afterReply policy issuer nonce now reply
      return ⟨result, [(address, credentials.password)]⟩ := by
  unfold login verify afterReply
  rw [h]
  simp only [bind_assoc, pure_bind]
  refine bind_congr fun reply => bind_congr fun verified => ?_
  cases verified with
  | error f => simp only [bind_assoc, pure_bind]
  | ok identity => rfl

theorem result_login_of_verify {credentials : Credentials} {service : Service} {identity : Identity}
    (h : (verify policy service credentials).value.result = .ok identity) :
    (login policy issuer service credentials nonce now).value.result =
      (issueSession issuer.secret nonce identity none issuer.lifetime now).mapError .issuance := by
  rw [login, value_bind, h]
  simp only [value_bind, value_pure, value_issueFor_verified]

/-- A session that `login` gives was issued for the identity that `verify` gives, without a provider account. -/
theorem issueSession_of_login {credentials : Credentials} {service : Service} {issued : IssuedSession}
    (h : (login policy issuer service credentials nonce now).value.result = .ok issued) :
    ∃ identity, (verify policy service credentials).value.result = .ok identity ∧
      issueSession issuer.secret nonce identity none issuer.lifetime now = .ok issued := by
  cases hverify : (verify policy service credentials).value.result with
  | error f =>
    rw [login, value_bind, hverify] at h
    cases h
  | ok identity =>
    rw [result_login_of_verify policy issuer nonce now hverify] at h
    exact ⟨identity, rfl, mapError_eq_ok_iff.1 h⟩

/-- If the credentials pass `PassesChecks`, `login` asks the service once, with the `trim`med email and the password
as it is, and all that follows is one function `rest` of the reply. The result is `.unavailable` exactly if the reply
`IsOutage`, `.invalidCredentials` exactly if it `IsRefusal`, and for a record with an identity it is the result of
`issueSession`, an error of it as `.issuance`. Credentials that fail `PassesChecks` have the result
`.invalidCredentials` and no `calls`, whatever the service. -/
theorem login_exact (credentials : Credentials) :
    (PassesChecks policy.minPasswordLength credentials →
      ∃ address : EmailAddress, address.text = trim credentials.email ∧
        (∃ rest : Reply → Logged (Asked (Except LoginError IssuedSession)), ∀ service : Service,
          login policy issuer service credentials nonce now = service address credentials.password >>= rest) ∧
        ∀ service : Service,
          let reply := (service address credentials.password).value
          let answer := (login policy issuer service credentials nonce now).value
          answer.calls = [(address, credentials.password)] ∧
          (answer.result = .error .unavailable ↔ IsOutage reply) ∧
          (answer.result = .error .invalidCredentials ↔ IsRefusal reply) ∧
          ∀ record identity, reply = .answered (.ok record) → record.identity = .ok identity →
            answer.result = (issueSession issuer.secret nonce identity none issuer.lifetime now).mapError .issuance) ∧
    (¬ PassesChecks policy.minPasswordLength credentials →
      ∃ outcome : Logged (Asked (Except LoginError IssuedSession)),
        (∀ service : Service, login policy issuer service credentials nonce now = outcome) ∧
        outcome.value.calls = [] ∧ outcome.value.result = .error .invalidCredentials) := by
  constructor
  · intro hpasses
    obtain ⟨address, hcheck, htext⟩ := exists_check_of_passesChecks hpasses
    refine ⟨address, htext, ⟨_, login_of_check_ok policy issuer nonce now hcheck⟩, ?_⟩
    intro service reply answer
    have hresult : answer.result = (afterReply policy issuer nonce now reply).value := by
      simp only [answer, login_of_check_ok policy issuer nonce now hcheck service, value_bind, value_pure, reply]
    have hcalls : answer.calls = [(address, credentials.password)] := by
      simp only [answer, login_of_check_ok policy issuer nonce now hcheck service, value_bind, value_pure]
    rw [hresult]
    refine ⟨hcalls, value_afterReply_eq_unavailable_iff policy issuer nonce now,
      value_afterReply_eq_invalidCredentials_iff policy issuer nonce now, ?_⟩
    intro record identity hreply hidentity
    rw [hreply]
    exact value_afterReply_of_identity policy issuer nonce now hidentity
  · intro hfails
    obtain ⟨e, hcheck⟩ := exists_error_of_not_passesChecks hfails
    exact ⟨_, login_of_check_error policy issuer nonce now hcheck, rfl, rfl⟩

/-- Six characters in seven bytes make a password that is passed on with the `trim`med email, once, although the
service stays silent; five characters in six bytes do not. -/
theorem login_exact_six_characters :
    (let answer := (login ⟨6, 10000⟩ ⟨⟨[0], by decide⟩, .ofSeconds 60⟩ (fun _ _ => .silent .silence)
        ⟨" a@example.com\n", "sécret"⟩ (.ofNat 0) ⟨0⟩).value;
      answer.calls.map (fun call => (call.1.text, call.2)) = [("a@example.com", "sécret")] ∧
        answer.result = .error .unavailable) ∧
    (let answer := (login ⟨6, 10000⟩ ⟨⟨[0], by decide⟩, .ofSeconds 60⟩ (fun _ _ => .silent .silence)
        ⟨" a@example.com\n", "sécre"⟩ (.ofNat 0) ⟨0⟩).value;
      answer.calls = [] ∧ answer.result = .error .invalidCredentials) := by
  constructor
  · obtain ⟨hpasses, -⟩ := login_exact ⟨6, 10000⟩ ⟨⟨[0], by decide⟩, .ofSeconds 60⟩ (.ofNat 0) ⟨0⟩
      ⟨" a@example.com\n", "sécret"⟩
    obtain ⟨address, htext, -, hanswer⟩ := hpasses (by decide +kernel)
    obtain ⟨hcalls, houtage, -, -⟩ := hanswer fun _ _ => .silent .silence
    have htrim : trim " a@example.com\n" = "a@example.com" := by decide +kernel
    refine ⟨?_, houtage.2 (.inl rfl)⟩
    rw [hcalls]
    simp only [List.map_cons, List.map_nil, htext, htrim]
  · obtain ⟨-, hfails⟩ := login_exact ⟨6, 10000⟩ ⟨⟨[0], by decide⟩, .ofSeconds 60⟩ (.ofNat 0) ⟨0⟩
      ⟨" a@example.com\n", "sécre"⟩
    obtain ⟨outcome, hlogin, hcalls, hresult⟩ := hfails (by decide +kernel)
    intro answer
    have hanswer : answer = outcome.value := congrArg Logged.value (hlogin _)
    rw [hanswer]
    exact ⟨hcalls, hresult⟩

end Gatehouse.Login
