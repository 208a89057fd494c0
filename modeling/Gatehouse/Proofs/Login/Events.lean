/-
What a login logs. The events of a login follow from how it ends: from the cause that it fails for, or from
the user and the onboarding of the session that is issued. Neither the password nor the secret, and no
access token, is told by them otherwise.
-/
import Gatehouse.Proofs.Backend.Fault
import Gatehouse.Proofs.Session.Issue

namespace Gatehouse.Login

open Gatehouse.Backend Gatehouse.Identity Gatehouse.Log Gatehouse.Session Gatehouse.Time

/-! ## Issuing -/

/-- The source with another access token, if it has one at all. -/
def Source.withAccessToken (source : Source) (token : String) : Source :=
  match source with
  | .profile p => .profile { p with accessToken := token }
  | source => source

theorem identity_withAccessToken (source : Source) (token : String) :
    (Source.withAccessToken source token).identity = source.identity := by
  cases source <;> rfl

theorem provider_withAccessToken (source : Source) (token : String) :
    (Source.withAccessToken source token).account.map ProviderAccount.provider =
      source.account.map ProviderAccount.provider := by
  cases source <;> rfl

theorem sessionIssued_congr {c d : SessionClaims} {a b : Option ProviderAccount} (hsubject : c.subject = d.subject)
    (honboarded : c.onboarded = d.onboarded)
    (hprovider : a.map ProviderAccount.provider = b.map ProviderAccount.provider) :
    sessionIssued c a = sessionIssued d b := by
  unfold sessionIssued
  rw [hsubject, honboarded]
  cases a with
  | none =>
    cases b with
    | none => rfl
    | some b => cases hprovider
  | some a =>
    cases b with
    | none => cases hprovider
    | some b =>
      have hname : a.provider = b.provider := Option.some.inj hprovider
      simp only [hname]

section Issue

variable {issuer : Issuer} {nonce : Nonce} {source : Source} {now : Instant}

theorem events_issueFor_of_ok {issued : IssuedSession} (h : (issueFor issuer nonce source now).value = .ok issued) :
    (issueFor issuer nonce source now).events = [sessionIssued issued.claims source.account] := by
  unfold issueFor at h ⊢
  split at h
  · cases h
  · split at h
    · cases h
    · cases h
      rfl

theorem events_issueFor_of_issuance {e : TokenError}
    (h : (issueFor issuer nonce source now).value = .error (.issuance e)) :
    (issueFor issuer nonce source now).events = [] := by
  unfold issueFor at h ⊢
  split at h
  · cases h
  · split at h
    · rfl
    · cases h

end Issue

/-- What `issueFor` logs has nothing to do with the secret, the nonce or the access token. -/
theorem events_issueFor (issuer : Issuer) (nonce : Nonce) (source : Source) (now : Instant) :
    (issueFor issuer nonce source now).events =
      match source.identity with
      | .error e => [sourceRejected e]
      | .ok identity =>
        if IsLifetime now issuer.lifetime then
          [sessionIssued (claimsFor identity source.account now issuer.lifetime) source.account]
        else [] := by
  unfold issueFor
  cases source.identity with
  | error e => rfl
  | ok identity =>
    simp only [issueSession_eq_ite]
    split_ifs <;> rfl

theorem events_issueFor_withAccessToken (lifetime : Span) (source : Source) (now : Instant)
    (secret other : SigningSecret) (nonce otherNonce : Nonce) (token otherToken : String) :
    (issueFor ⟨secret, lifetime⟩ nonce (Source.withAccessToken source token) now).events =
      (issueFor ⟨other, lifetime⟩ otherNonce (Source.withAccessToken source otherToken) now).events := by
  have hprovider : (Source.withAccessToken source token).account.map ProviderAccount.provider =
      (Source.withAccessToken source otherToken).account.map ProviderAccount.provider := by
    rw [provider_withAccessToken, provider_withAccessToken]
  rw [events_issueFor, events_issueFor, identity_withAccessToken, identity_withAccessToken]
  cases source.identity with
  | error e => rfl
  | ok identity =>
    simp only
    split_ifs
    · exact congrArg (fun event => [event]) (sessionIssued_congr rfl rfl hprovider)
    · rfl

/-! ## Logging in -/

/-- What is not to be known of a login. -/
structure Hidden where
  password : String
  secret : SigningSecret
  nonce : Nonce

/-- What a login fails for before a session can be issued. -/
inductive Cause where
  | check (e : CredentialError)
  | attempt (fault : Fault)
  deriving DecidableEq, Repr

/-- The failure that a cause is for the login. -/
def Cause.failure : Cause → AuthFailure
  | .check e => .ofCredentialError e
  | .attempt fault => fault.failure

/-- What is logged of a login that fails for a cause. -/
def Cause.events (timeoutMillis : Nat) : Cause → List Event
  | .check e => [loginFailed (.ofCredentialError e)]
  | .attempt fault => fault.events timeoutMillis ++ [loginFailed fault.failure]

/-- What follows once an identity is known, or why there is none. -/
def afterIdentity (issuer : Issuer) (nonce : Nonce) (now : Instant) :
    Except AuthFailure Identity → Logged (Except LoginError IssuedSession)
  | .error f => ⟨.error (.ofFailure f), [loginFailed f]⟩
  | .ok identity => issueFor issuer nonce (.verified identity) now

theorem afterReply_eq (policy : Policy) (issuer : Issuer) (nonce : Nonce) (now : Instant) (reply : Reply) :
    afterReply policy issuer nonce now reply =
      reply.identity policy.timeoutMillis >>= afterIdentity issuer nonce now :=
  bind_congr fun verified => by cases verified <;> rfl

section Login

variable (policy : Policy) (lifetime : Span) (attempts : EmailAddress → String → Attempt) (email : String)
  (now : Instant)

/-- A login at an identity service that makes an attempt of every credentials. -/
def loginAt (x : Hidden) : Logged (Asked (Except LoginError IssuedSession)) :=
  login policy ⟨x.secret, lifetime⟩ (attempting attempts) ⟨email, x.password⟩ x.nonce now

/-- The identity that a password comes to, or the cause that it fails for. -/
def verdict (password : String) : Except Cause Identity :=
  match (Credentials.mk email password).check policy.minPasswordLength with
  | .error e => .error (.check e)
  | .ok address => (attempts address password).identity.mapError .attempt

/-- Two logins end alike: they fail for one cause, or no session can be issued in either for one reason, or both have a
session of one user, onboarded in both or in neither. -/
inductive EndAlike (x y : Hidden) : Prop
  | failed (cause : Cause) (hx : verdict policy attempts email x.password = .error cause)
      (hy : verdict policy attempts email y.password = .error cause)
  | unissued (e : TokenError)
      (hx : (loginAt policy lifetime attempts email now x).value.result = .error (.issuance e))
      (hy : (loginAt policy lifetime attempts email now y).value.result = .error (.issuance e))
  | issued (i j : IssuedSession) (hx : (loginAt policy lifetime attempts email now x).value.result = .ok i)
      (hy : (loginAt policy lifetime attempts email now y).value.result = .ok j)
      (hsubject : i.claims.subject = j.claims.subject) (honboarded : i.claims.onboarded = j.claims.onboarded)

variable {policy lifetime attempts email now} {x y : Hidden}

theorem loginAt_of_check_ok {address : EmailAddress}
    (h : (Credentials.mk email x.password).check policy.minPasswordLength = .ok address) :
    loginAt policy lifetime attempts email now x = do
      let verified ← reportOf policy.timeoutMillis (attempts address x.password).identity
      let result ← afterIdentity ⟨x.secret, lifetime⟩ x.nonce now verified
      return ⟨result, [(address, x.password)]⟩ := by
  unfold loginAt
  rw [login_of_check_ok policy _ _ _ h, ← logged_bind_identity, bind_assoc]
  show (attempts address x.password).logged >>= _ = _
  refine bind_congr fun reply => ?_
  rw [afterReply_eq, bind_assoc]

theorem loginAt_of_error {cause : Cause} (h : verdict policy attempts email x.password = .error cause) :
    (loginAt policy lifetime attempts email now x).value.result = .error (.ofFailure cause.failure) ∧
      (loginAt policy lifetime attempts email now x).events = cause.events policy.timeoutMillis := by
  unfold verdict at h
  cases hcheck : (Credentials.mk email x.password).check policy.minPasswordLength with
  | error e =>
    rw [hcheck] at h
    cases h
    unfold loginAt
    rw [login_of_check_error policy _ _ _ hcheck]
    exact ⟨by cases e <;> rfl, rfl⟩
  | ok address =>
    simp only [hcheck] at h
    rw [loginAt_of_check_ok hcheck]
    cases hidentity : (attempts address x.password).identity with
    | error fault =>
      rw [hidentity] at h
      cases h
      exact ⟨rfl, rfl⟩
    | ok identity =>
      rw [hidentity] at h
      cases h

theorem loginAt_of_ok {identity : Identity} (h : verdict policy attempts email x.password = .ok identity) :
    (loginAt policy lifetime attempts email now x).value.result =
        (issueFor ⟨x.secret, lifetime⟩ x.nonce (.verified identity) now).value ∧
      (loginAt policy lifetime attempts email now x).events =
        (issueFor ⟨x.secret, lifetime⟩ x.nonce (.verified identity) now).events := by
  unfold verdict at h
  cases hcheck : (Credentials.mk email x.password).check policy.minPasswordLength with
  | error e =>
    rw [hcheck] at h
    cases h
  | ok address =>
    simp only [hcheck] at h
    rw [loginAt_of_check_ok hcheck]
    cases hidentity : (attempts address x.password).identity with
    | error fault =>
      rw [hidentity] at h
      cases h
    | ok found =>
      rw [hidentity] at h
      cases h
      refine ⟨rfl, ?_⟩
      simp only [events_bind, events_pure, List.append_nil]
      rfl

theorem ofFailure_ne_issuance (f : AuthFailure) (e : TokenError) : LoginError.ofFailure f ≠ .issuance e := by
  unfold LoginError.ofFailure
  split_ifs <;> exact nofun

theorem events_loginAt_of_issuance {e : TokenError}
    (h : (loginAt policy lifetime attempts email now x).value.result = .error (.issuance e)) :
    (loginAt policy lifetime attempts email now x).events = [] := by
  cases hverdict : verdict policy attempts email x.password with
  | error cause =>
    rw [(loginAt_of_error hverdict).1] at h
    exact absurd (Except.error.inj h) (ofFailure_ne_issuance _ e)
  | ok identity =>
    obtain ⟨hresult, hevents⟩ := @loginAt_of_ok policy lifetime attempts email now x identity hverdict
    rw [hresult] at h
    rw [hevents, events_issueFor_of_issuance h]

theorem events_loginAt_of_ok {issued : IssuedSession}
    (h : (loginAt policy lifetime attempts email now x).value.result = .ok issued) :
    (loginAt policy lifetime attempts email now x).events = [sessionIssued issued.claims none] := by
  cases hverdict : verdict policy attempts email x.password with
  | error cause =>
    rw [(loginAt_of_error hverdict).1] at h
    cases h
  | ok identity =>
    obtain ⟨hresult, hevents⟩ := @loginAt_of_ok policy lifetime attempts email now x identity hverdict
    rw [hresult] at h
    rw [hevents, events_issueFor_of_ok h]
    rfl

theorem events_loginAt_of_endAlike (h : EndAlike policy lifetime attempts email now x y) :
    (loginAt policy lifetime attempts email now x).events = (loginAt policy lifetime attempts email now y).events := by
  cases h with
  | failed cause hx hy => rw [(loginAt_of_error hx).2, (loginAt_of_error hy).2]
  | unissued e hx hy => rw [events_loginAt_of_issuance hx, events_loginAt_of_issuance hy]
  | issued i j hx hy hsubject honboarded =>
    rw [events_loginAt_of_ok hx, events_loginAt_of_ok hy, sessionIssued_congr hsubject honboarded rfl]

end Login

end Gatehouse.Login
