/-
What a payload says is what the claims said, when both ends of their window are dates: the account
stays behind in its sealed form, and a payload that expires before 1970 is refused.
-/
import Gatehouse.Proofs.Identity.Uuid
import Gatehouse.Proofs.Json.Record
import Gatehouse.Proofs.Time.Instant
import Gatehouse.Session.Token

namespace Gatehouse.Session

open Gatehouse.Text Gatehouse.Identity Gatehouse.Time
open Gatehouse.Json (Syntax Value)

/-! ## The members of a payload -/

/-- The members of a payload, in their order. -/
def payloadList (claims : SessionClaims) (blob : Option String) : List (String × Value) :=
  claims.members ++ ("aud", .text audience) ::
    (match blob with
     | none => []
     | some s => [("prv", .text s)])

theorem payloadJson_eq (claims : SessionClaims) (blob : Option String) :
    payloadJson claims blob = .object (payloadList claims blob) := rfl

theorem nodup_payloadKeys (claims : SessionClaims) (blob : Option String) :
    ((payloadList claims blob).map Prod.fst).Nodup := by
  cases blob with
  | none =>
    show ["sub", "email", "name", "organization_id", "role", "onboarding_completed", "iat", "exp", "aud"].Nodup
    decide
  | some s =>
    show ["sub", "email", "name", "organization_id", "role", "onboarding_completed", "iat", "exp", "aud",
      "prv"].Nodup
    decide

theorem fitsWord_seconds {t : Instant} (h : t.isRepresentable = true) : Json.fitsWord t.seconds := by
  obtain ⟨hlo, hhi⟩ := seconds_bounds h
  simp only [minSeconds, maxSeconds] at hlo hhi
  constructor
  · simp only [Integer.minSigned]
    omega
  · simp only [Integer.maxUnsigned]
    omega

theorem fits_idValue (id : Option Uuid) : (idValue id).Fits := by
  cases id <;> exact trivial

theorem fits_payloadJson {claims : SessionClaims} (blob : Option String) (hi : claims.issuedAt.isRepresentable = true)
    (he : claims.expiresAt.isRepresentable = true) : (payloadJson claims blob).Fits := by
  have hi := fitsWord_seconds hi
  have he := fitsWord_seconds he
  have ho := fits_idValue claims.organizationId
  cases blob with
  | none => exact ⟨trivial, trivial, trivial, ho, trivial, trivial, hi, he, trivial, trivial⟩
  | some s => exact ⟨trivial, trivial, trivial, ho, trivial, trivial, hi, he, trivial, trivial, trivial⟩

theorem isReadable_payloadJson (claims : SessionClaims) (blob : Option String) :
    (payloadJson claims blob).shape.isReadable Json.maxDepth = true := by
  have ho : (idValue claims.organizationId).shape.isReadable 126 = true := by
    cases claims.organizationId <;> rfl
  cases blob <;> simp [payloadJson, SessionClaims.members, Value.shape, Json.shapeMembers, Json.maxDepth,
    Syntax.isReadable, Json.membersReadable, ho]

theorem optionalId?_idValue (id : Option Uuid) : optionalId? (some (idValue id).shape) = some id := by
  cases id with
  | none => rfl
  | some u =>
    simp only [idValue, Value.shape, optionalId?, Json.optionalText?, Option.bind_eq_bind, Option.bind_some,
      parse_render, Except.toOption]
    rfl

theorem namedMembers?_payload (claims : SessionClaims) (blob : Option String) :
    Json.namedMembers? payloadMembers (Json.shapeMembers (payloadList claims blob)) =
      some [some (.text claims.subject.render), some (.text claims.email), some (.text claims.name),
        some (idValue claims.organizationId).shape, some (.text claims.role.name), some (.bool claims.onboarded),
        some (.integer claims.issuedAt.seconds), some (.integer claims.expiresAt.seconds),
        some (.text audience), blob.map Syntax.text, none, none] := by
  rw [Json.namedMembers?_shapeMembers (nodup_payloadKeys claims blob)]
  cases blob <;> rfl

theorem claimsOfMembers?_payload {claims : SessionClaims} (blob : Option String)
    (hi : claims.issuedAt.IsDatedSecond) (he : claims.expiresAt.IsDatedSecond) :
    claimsOfMembers? (Json.shapeMembers (payloadList claims blob)) =
      if 0 ≤ claims.expiresAt.seconds then some ({ claims with provider := none }, blob) else none := by
  rw [claimsOfMembers?, namedMembers?_payload]
  have hblob : Json.optionalText? (blob.map Syntax.text) = some blob := by
    cases blob <;> rfl
  simp only [Option.bind_eq_bind, Option.bind_some, Json.requiredText?, parse_render, optionalId?_idValue, hblob,
    Except.toOption, second?, Json.requiredInteger?, Json.requiredBool?, ofSeconds?_seconds hi,
    ofSeconds?_seconds he, isNonEmptyContainer, true_and, and_true]

theorem claimsOfPayload?_payloadJson {claims : SessionClaims} (blob : Option String)
    (hi : claims.issuedAt.IsDatedSecond) (he : claims.expiresAt.IsDatedSecond) :
    claimsOfPayload? (utf8Bytes (payloadJson claims blob).write) =
      if 0 ≤ claims.expiresAt.seconds then some ({ claims with provider := none }, blob) else none := by
  have hread := Json.read_write _ (fits_payloadJson blob hi.2 he.2)
  have hreadable := isReadable_payloadJson claims blob
  rw [payloadJson_eq, Value.shape] at hread hreadable
  rw [claimsOfPayload?, payloadJson_eq, hread, Option.bind_eq_bind, Option.bind_some]
  simp only [hreadable, if_true]
  exact claimsOfMembers?_payload blob hi he

end Gatehouse.Session
