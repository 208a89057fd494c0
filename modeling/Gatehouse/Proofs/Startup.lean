/-
What a start tells of the secrets of its environment. The secret that sessions are signed with is told nowhere, and a
start that fails tells no password either. One that succeeds logs the URL of the identity service as it is set, with
the password in it; apart from that URL the log is the same under every password.
-/
import Gatehouse.Proofs.Backend.Endpoint
import Gatehouse.Proofs.Settings
import Gatehouse.Startup

namespace Gatehouse

open Gatehouse.Backend Gatehouse.Log Gatehouse.Session Gatehouse.Text Gatehouse.Url

/-! ## Environments that differ in secrets -/

/-- The environments differ at most in the secret for signing and in the password in the URL of the identity service. -/
structure Environment.DifferInSecrets (env other : Environment) : Prop where
  others : ∀ name, name ≠ "AUTH_SECRET" → name ≠ "IDENTITY_BACKEND_URL" → other name = env name
  backendUrl : other "IDENTITY_BACKEND_URL" = env "IDENTITY_BACKEND_URL" ∨
    ∃ url url', env "IDENTITY_BACKEND_URL" = some url ∧ other "IDENTITY_BACKEND_URL" = some url' ∧
      DifferInPassword url url'

variable {env other : Environment} {settings settings' : Settings}

theorem Environment.DifferInSecrets.symm (h : env.DifferInSecrets other) : other.DifferInSecrets env where
  others := fun name hsecret hurl => (h.others name hsecret hurl).symm
  backendUrl := by
    rcases h.backendUrl with hsame | ⟨url, url', henv, hother, hpassword⟩
    · exact .inl hsame.symm
    · exact .inr ⟨url', url, hother, henv, hpassword.symm⟩

end Gatehouse
