/-
What an accepted environment fixes of the application: sessions are signed with the secret of the
environment and judged by the dashboard's own rules, and they last from a second to a year.
-/
import Gatehouse.App.Basic
import Gatehouse.Proofs.Except
import Mathlib.Tactic.SplitIfs

namespace Gatehouse

open Gatehouse.Access Gatehouse.Session Gatehouse.Text Gatehouse.Time

/-! ## Settings -/

theorem of_require {env : Environment} {v : Variable} {s : String} (h : env.require v = .ok s) :
    env v.name = some s := by
  rw [Environment.require, Environment.get] at h
  cases hv : (env v.name).filter fun s => !isBlankText s with
  | none => rw [hv] at h; exact nomatch h
  | some text =>
    rw [hv] at h
    cases h
    exact (Option.filter_eq_some_iff.1 hv).1

theorem of_read {α : Type} {env : Environment} {v : Variable} {default a : α} {parse : List Char → Option α}
    (h : env.read v default parse = .ok a) :
    env.get v = none ∧ a = default ∨ ∃ s, env.get v = some s ∧ parse (strip s.toList) = some a := by
  unfold Environment.read at h
  cases hget : env.get v with
  | none =>
    rw [hget] at h
    exact .inl ⟨rfl, (Except.ok.inj h).symm⟩
  | some s =>
    rw [hget] at h
    cases hparse : parse (strip s.toList) with
    | none =>
      simp only [hparse] at h
      exact nomatch h
    | some b =>
      simp only [hparse] at h
      cases h
      exact .inr ⟨s, rfl, hparse⟩

/-- The lifetime that an environment asks for: the whole number that its variable holds, or seven days if that is
absent or blank. -/
def Environment.sessionSeconds? (env : Environment) : Option Int :=
  match env.get .sessionSeconds with
  | none => some (7 * 24 * 60 * 60)
  | some s => Integer.integer? (strip s.toList)

theorem of_sessionSeconds? {cs : List Char} {n : Int} (h : sessionSeconds? cs = some n) :
    Integer.integer? cs = some n ∧ 1 ≤ n ∧ n ≤ maxSessionSeconds := by
  obtain ⟨hsigned, hbounds⟩ := Option.filter_eq_some_iff.1 h
  obtain ⟨hinteger, -⟩ := Option.filter_eq_some_iff.1 hsigned
  exact ⟨hinteger, of_decide_eq_true hbounds⟩

/-- The lifetime that is read is the one that the environment asks for, and lies between a second and a year. -/
theorem sessionSeconds?_of_read {env : Environment} {n : Int}
    (h : env.read .sessionSeconds defaultSessionSeconds sessionSeconds? = .ok n) :
    env.sessionSeconds? = some n ∧ 1 ≤ n ∧ n ≤ maxSessionSeconds := by
  unfold Environment.sessionSeconds?
  rcases of_read h with ⟨hget, rfl⟩ | ⟨s, hget, hparse⟩
  · rw [hget]
    decide
  · rw [hget]
    exact of_sessionSeconds? hparse

/-- What `Settings.load` takes from the environment: the secret as it stands, and the seconds of a session. -/
theorem reads_of_load {env : Environment} {settings : Settings} (h : Settings.load env = .ok settings) :
    env.require .authSecret = .ok settings.authSecret ∧
      ∃ n, env.read .sessionSeconds defaultSessionSeconds sessionSeconds? = .ok n ∧
        settings.sessionLifetime = .ofSeconds n := by
  rw [Settings.load] at h
  obtain ⟨secret, hsecret, h⟩ := bind_eq_ok_iff.1 h
  split_ifs at h
  · exact nomatch h
  obtain ⟨url, _, h⟩ := bind_eq_ok_iff.1 h
  obtain ⟨seconds, hseconds, h⟩ := bind_eq_ok_iff.1 h
  obtain ⟨minLength, _, h⟩ := bind_eq_ok_iff.1 h
  obtain ⟨timeout, _, h⟩ := bind_eq_ok_iff.1 h
  obtain ⟨secure, _, h⟩ := bind_eq_ok_iff.1 h
  obtain ⟨format, _, h⟩ := bind_eq_ok_iff.1 h
  cases h
  exact ⟨hsecret, seconds, hseconds, rfl⟩

theorem of_load {env : Environment} {settings : Settings} (h : Settings.load env = .ok settings) :
    env "AUTH_SECRET" = some settings.authSecret ∧
      ∃ n, settings.sessionLifetime = .ofSeconds n ∧ 1 ≤ n ∧ n ≤ maxSessionSeconds := by
  obtain ⟨hsecret, n, hread, hlifetime⟩ := reads_of_load h
  obtain ⟨-, hbounds⟩ := sessionSeconds?_of_read hread
  exact ⟨of_require hsecret, n, hlifetime, hbounds⟩

/-! ## The application -/

/-- What an application has of its settings. -/
structure App.Wired (settings : Settings) (app : App) : Prop where
  authorizer : app.gate.authorizer = .reference
  secret : app.gate.secret.bytes = bytesOf settings.authSecret
  issuer : app.issuer = ⟨app.gate.secret, settings.sessionLifetime⟩
  cookie : app.cookie.lifetime = settings.sessionLifetime

theorem bytes_of_ofText? {s : String} {secret : SigningSecret} (h : SigningSecret.ofText? s = some secret) :
    secret.bytes = bytesOf s := by
  rw [SigningSecret.ofText?] at h
  split_ifs at h
  cases h
  rfl

theorem App.wired_of_ofSettings {settings : Settings} {app : App} (h : App.ofSettings settings = .ok app) :
    app.Wired settings := by
  rw [App.ofSettings] at h
  split at h
  · exact nomatch h
  · exact nomatch h
  · rename_i secret url hsecret hurl
    cases h
    exact ⟨rfl, bytes_of_ofText? hsecret, rfl, rfl⟩

theorem ofSettings_of_isSome {env : Environment}
    (h : (Settings.load env >>= App.ofSettings).toOption.isSome = true) :
    ∃ settings, Settings.load env = .ok settings ∧
      App.ofSettings settings = .ok ((Settings.load env >>= App.ofSettings).toOption.get h) := by
  obtain ⟨app, happ⟩ := Option.isSome_iff_exists.1 h
  rw [Option.get_of_eq_some h happ]
  cases hresult : Settings.load env >>= App.ofSettings with
  | error e =>
    rw [hresult] at happ
    exact nomatch happ
  | ok found =>
    rw [hresult] at happ
    cases happ
    exact bind_eq_ok_iff.1 hresult

/-! ## A service on one machine -/

/-- The environment of a service next to its identity service, with everything else left at its default. -/
def localEnvironment : Environment := fun name =>
  if name = "AUTH_SECRET" then some "0123456789abcdef0123456789abcdef"
  else if name = "IDENTITY_BACKEND_URL" then some "http://127.0.0.1:9000"
  else none

theorem isSome_localApp :
    (Settings.load localEnvironment >>= App.ofSettings).toOption.isSome = true := by decide +kernel

/-- The application of that environment. -/
def localApp : App := (Settings.load localEnvironment >>= App.ofSettings).toOption.get isSome_localApp

theorem ofSettings_local :
    ∃ settings, Settings.load localEnvironment = .ok settings ∧ App.ofSettings settings = .ok localApp :=
  ofSettings_of_isSome isSome_localApp

end Gatehouse
