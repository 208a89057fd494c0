/-
Sessions that have ended before their login has. A session begins when the login comes in, and the identity
service may then take its time: the lifetime and the time limit are set without regard to each other. A
session outlasts the time limit of every login exactly if it is set to be longer by a second or more,
which is what the start loses to whole seconds.
-/
import Gatehouse.Proofs.App.Issuance

namespace Gatehouse

open Gatehouse.Time

/-- How long the identity service may take for an answer. -/
def Settings.timeLimit (settings : Settings) : Span := ⟨settings.backendTimeoutMillis * 1000000⟩

namespace App

open Gatehouse.Http Gatehouse.Identity Gatehouse.Session

/-- An instant at which the identity service may still be asked on behalf of an exchange. -/
def Exchange.Pending (settings : Settings) (x : Exchange) (t : Instant) : Prop :=
  x.instant ≤ t ∧ t < x.instant.plus settings.timeLimit

/-! ## Reading from the issue on -/

theorem readToken_of_issuedAt_le {secret : SigningSecret} {token : String} {claims : SessionClaims}
    (h : decodeToken secret token = .ok claims) (hwindow : claims.issuedAt < claims.expiresAt) {t : Instant}
    (ht : claims.issuedAt ≤ t) :
    readToken secret token t = if t < claims.expiresAt then .ok claims else .error (.window .expired) := by
  rw [readToken_eq_ite secret h, if_neg (Instant.not_le.2 hwindow), if_neg (Instant.not_lt.2 ht)]

theorem readToken_of_issueSession {secret : SigningSecret} {nonce : Nonce} {identity : Identity} {lifetime : Span}
    {now : Instant} {issued : IssuedSession} (hsince : 0 ≤ now.nanos)
    (h : issueSession secret nonce identity none lifetime now = .ok issued) {t : Instant} (ht : now ≤ t) :
    readToken secret issued.token t =
      if t < now.floor.plus lifetime then .ok issued.claims else .error (.window .expired) := by
  have hdecode := decodeToken_issued secret nonce hsince h
  obtain ⟨hlife, rfl⟩ := eq_of_issueSession secret nonce h
  have hwindow : now.floor < now.floor.plus lifetime := Int.lt_add_of_pos_right _ hlife.1
  exact readToken_of_issuedAt_le hdecode hwindow (Int.le_trans (floor_le now) ht)

/-! ## The time limit -/

variable {settings : Settings}

/-- Whole seconds, one or more, make up for the fraction that is cut off. -/
theorem le_floor_plus (t : Instant) {n : Int} (hn : 1 ≤ n) : t ≤ t.floor.plus (.ofSeconds n) := by
  show t.nanos ≤ t.nanos / nanosPerSecond * nanosPerSecond + n * nanosPerSecond
  simp only [nanosPerSecond]
  omega

/-- A session of `n` seconds is open whenever its login is `Pending` exactly if it ends no sooner than `timeLimit`. -/
theorem forall_pending_iff {x : Exchange} {n : Int} (hn : 1 ≤ n) :
    (∀ t, x.Pending settings t → t < x.instant.floor.plus (.ofSeconds n)) ↔
      x.instant.plus settings.timeLimit ≤ x.instant.floor.plus (.ofSeconds n) := by
  constructor
  · intro h
    -- otherwise the end of the session is itself an instant within the time limit
    by_contra hshort
    exact absurd (h _ ⟨le_floor_plus _ hn, Instant.not_le.1 hshort⟩) (Int.lt_irrefl _)
  · rintro h t ⟨-, ht⟩
    exact Int.lt_of_lt_of_le ht h

/-- A lifetime that is longer than the time limit by a second or more makes up for every fraction of a second. -/
theorem plus_timeLimit_le {n : Int} (h : settings.backendTimeoutMillis + 1000 ≤ 1000 * n) (t : Instant) :
    t.plus settings.timeLimit ≤ t.floor.plus (.ofSeconds n) := by
  show t.nanos + settings.backendTimeoutMillis * 1000000 ≤ t.nanos / nanosPerSecond * nanosPerSecond + n * nanosPerSecond
  simp only [nanosPerSecond]
  omega

theorem plus_lt_plus_timeLimit {n : Int} (h : 1000 * n < settings.backendTimeoutMillis + 1000) {t : Instant}
    (ht : t.nanos % nanosPerSecond = 999999999) : t.floor.plus (.ofSeconds n) < t.plus settings.timeLimit := by
  show t.nanos / nanosPerSecond * nanosPerSecond + n * nanosPerSecond < t.nanos + settings.backendTimeoutMillis * 1000000
  simp only [nanosPerSecond] at ht ⊢
  omega

/-! ## Logins -/

variable {app : App}

/-- A login that succeeds (`LogsIn`) from 1970 on leaves a token that `readToken` reads from the instant of the
request until the `sessionSeconds?` of the environment after its whole second, and refuses as `.expired` from then on.
It is read whenever the login may still be `Pending` exactly if that end is not before the end of `timeLimit`. So it
always is if these seconds exceed the time limit by one or more; if they do not, a login in the last nanosecond of a
second is `Pending` at an instant at which its token is `.expired`. -/
theorem session_outlasts_login {env : Environment} (hload : Settings.load env = .ok settings)
    (happ : App.ofSettings settings = .ok app) :
    ∃ seconds, env.sessionSeconds? = some seconds ∧
      ∀ (slot : Slot) (x : Exchange), x.LogsIn app → 0 ≤ x.instant.nanos → ∃ issued,
        Leaves app x issued ∧ slot.receive (x.response app) = some issued.token ∧
        (∀ t, x.instant ≤ t → readToken app.gate.secret issued.token t =
          if t < x.instant.floor.plus (.ofSeconds seconds) then .ok issued.claims else .error (.window .expired)) ∧
        ((∀ t, x.Pending settings t → readToken app.gate.secret issued.token t = .ok issued.claims) ↔
          x.instant.plus settings.timeLimit ≤ x.instant.floor.plus (.ofSeconds seconds)) ∧
        (settings.backendTimeoutMillis + 1000 ≤ 1000 * seconds →
          ∀ t, x.Pending settings t → readToken app.gate.secret issued.token t = .ok issued.claims) ∧
        (1000 * seconds < settings.backendTimeoutMillis + 1000 → x.instant.nanos % nanosPerSecond = 999999999 →
          ∃ t, x.Pending settings t ∧ readToken app.gate.secret issued.token t = .error (.window .expired)) := by
  obtain ⟨-, n, hread, hlifetime⟩ := reads_of_load hload
  obtain ⟨hseconds, hlo, -⟩ := sessionSeconds?_of_read hread
  have hwired := App.wired_of_ofSettings happ
  have hne : settings.sessionLifetime.seconds ≠ 0 := by
    rw [hlifetime, Span.seconds_ofSeconds]
    omega
  refine ⟨n, hseconds, fun slot x hlogin hsince => ?_⟩
  obtain ⟨issued, hleaves, hslot⟩ := leaves_of_logsIn hwired hne slot hsince hlogin
  obtain ⟨identity, -, hissue⟩ := hleaves.issue
  rw [hwired.issuer, hlifetime] at hissue
  have hreads : ∀ t, x.instant ≤ t → readToken app.gate.secret issued.token t =
      if t < x.instant.floor.plus (.ofSeconds n) then .ok issued.claims else .error (.window .expired) :=
    fun t => readToken_of_issueSession hsince hissue
  have hopen : ∀ t, x.instant ≤ t →
      (readToken app.gate.secret issued.token t = .ok issued.claims ↔ t < x.instant.floor.plus (.ofSeconds n)) := by
    intro t ht
    rw [hreads t ht]
    split_ifs with hend
    · exact iff_of_true rfl hend
    · exact iff_of_false nofun hend
  have hpending : (∀ t, x.Pending settings t → readToken app.gate.secret issued.token t = .ok issued.claims) ↔
      x.instant.plus settings.timeLimit ≤ x.instant.floor.plus (.ofSeconds n) := by
    rw [← forall_pending_iff hlo]
    exact forall₂_congr fun t ht => hopen t ht.1
  refine ⟨issued, hleaves, hslot, hreads, hpending, fun hlong => hpending.2 (plus_timeLimit_le hlong x.instant), ?_⟩
  intro hshort hlast
  -- the end of the session comes before that of the time limit
  have hstarted := le_floor_plus x.instant hlo
  refine ⟨_, ⟨hstarted, plus_lt_plus_timeLimit hshort hlast⟩, ?_⟩
  rw [hreads _ hstarted, if_neg (Instant.not_lt.2 (Int.le_refl _))]

theorem backendTimeoutMillis_of_load {env : Environment} {n : Nat} (hload : Settings.load env = .ok settings)
    (h : (Settings.load env).toOption.map Settings.backendTimeoutMillis = some n) :
    settings.backendTimeoutMillis = n := by
  rw [hload] at h
  exact Option.some.inj h

theorem pending_firstLogin {t : Instant} (hmillis : settings.backendTimeoutMillis = 10000)
    (ht : 500000000 ≤ t.nanos ∧ t.nanos < 10500000000) : firstLogin.Pending settings t := by
  unfold Exchange.Pending Settings.timeLimit
  rw [hmillis]
  exact ht

/-- With the default `timeLimit` of ten seconds a session of seven days is open to the last nanosecond of it. -/
theorem session_outlasts_login_local :
    ∃ (settings : Settings) (issued : IssuedSession),
      Settings.load localEnvironment = .ok settings ∧ App.ofSettings settings = .ok localApp ∧
      firstLogin.LogsIn localApp ∧ Slot.receive none (firstLogin.response localApp) = some issued.token ∧
      firstLogin.Pending settings ⟨10499999999⟩ ∧
      readToken localApp.gate.secret issued.token ⟨10499999999⟩ = .ok issued.claims := by
  obtain ⟨settings, hload, happ⟩ := ofSettings_local
  have hmillis : settings.backendTimeoutMillis = 10000 := backendTimeoutMillis_of_load hload (by decide +kernel)
  obtain ⟨seconds, hseconds, hall⟩ := session_outlasts_login hload happ
  have hweek : localEnvironment.sessionSeconds? = some 604800 := by decide +kernel
  rw [hweek] at hseconds
  cases hseconds
  obtain ⟨issued, -, hslot, -, -, hlong, -⟩ := hall none firstLogin logsIn_firstLogin (by decide)
  have hpending : firstLogin.Pending settings ⟨10499999999⟩ := pending_firstLogin hmillis (by decide)
  exact ⟨settings, issued, hload, happ, logsIn_firstLogin, hslot, hpending,
    hlong (by rw [hmillis]; decide) _ hpending⟩

/-- The environment of a service whose sessions last for a second. -/
def briefEnvironment : Environment := fun name =>
  if name = "SESSION_TTL_SECS" then some "1" else localEnvironment name

theorem isSome_briefApp : (Settings.load briefEnvironment >>= App.ofSettings).toOption.isSome = true := by
  decide +kernel

/-- Sessions of a second are accepted together with a `timeLimit` of ten. A login succeeds, and five seconds later,
while it may still be `Pending`, its token is `.expired`. -/
theorem session_expired_while_pending :
    ∃ (settings : Settings) (app : App) (issued : IssuedSession),
      Settings.load briefEnvironment = .ok settings ∧ App.ofSettings settings = .ok app ∧
      firstLogin.LogsIn app ∧ 0 ≤ firstLogin.instant.nanos ∧
      Slot.receive none (firstLogin.response app) = some issued.token ∧
      firstLogin.Pending settings ⟨5500000000⟩ ∧
      readToken app.gate.secret issued.token ⟨5500000000⟩ = .error (.window .expired) := by
  obtain ⟨settings, hload, happ⟩ := ofSettings_of_isSome isSome_briefApp
  have hwired := App.wired_of_ofSettings happ
  have hlifetime : settings.sessionLifetime = .ofSeconds 1 := by rw [← hwired.cookie]; decide +kernel
  have hmillis : settings.backendTimeoutMillis = 10000 := backendTimeoutMillis_of_load hload (by decide +kernel)
  have hlogin := logsIn_firstLogin_of hwired (by decide +kernel) (by rw [hlifetime]; decide +kernel)
  have hne : settings.sessionLifetime.seconds ≠ 0 := by
    rw [hlifetime]
    decide
  obtain ⟨issued, hleaves, hslot⟩ := leaves_of_logsIn hwired hne none (by decide) hlogin
  obtain ⟨identity, -, hissue⟩ := hleaves.issue
  rw [hwired.issuer, hlifetime] at hissue
  have hpending : firstLogin.Pending settings ⟨5500000000⟩ := pending_firstLogin hmillis (by decide)
  refine ⟨settings, _, issued, hload, happ, hlogin, by decide, hslot, hpending, ?_⟩
  rw [readToken_of_issueSession (by decide) hissue hpending.1]
  exact if_neg (by decide)

end App

end Gatehouse
