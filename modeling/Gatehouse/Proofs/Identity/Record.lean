/-
What records are normalized to. An identity comes of a record exactly if each of its texts passes the check
for it, and then each field follows from one text. An organization that a record names is the identity's,
and that of every session issued for it, unless the name is blank: a blank one is dropped without a word.
-/
import Gatehouse.Identity.Record
import Gatehouse.Proofs.Except
import Gatehouse.Proofs.Session.Issue
import Gatehouse.Proofs.Text.Blank

namespace Gatehouse.Identity

open Gatehouse.Text Gatehouse.Session

/-! ## Normalizing -/

/-- The organization of an optional text: none of a blank text or none, and of any other the identifier that it is. -/
def organizationOf (text : Option String) : Except UuidError (Option Uuid) :=
  match presentText? text with
  | none => .ok none
  | some s => some <$> Uuid.parse s

theorem normalize_eq (id email : String) (name organization role : Option String) (onboarded : Bool) :
    normalize id email name organization role onboarded = (do
      let userId ← (Uuid.parse (trim id)).mapError .userId
      let address ← (EmailAddress.parse email).mapError .email
      let organizationId ← (organizationOf organization).mapError .organizationId
      return ⟨userId, address.text, (presentText? name).getD address.text, organizationId,
        ((presentText? role).map Role.mk).getD .fallback, onboarded⟩) := by
  unfold normalize organizationOf
  cases presentText? organization with
  | none => rfl
  | some s =>
    simp only
    cases Uuid.parse s <;> rfl

/-- `normalize` succeeds exactly if every text passes its check, and each field comes of its own text. -/
theorem normalize_eq_ok_iff {id email : String} {name organization role : Option String} {onboarded : Bool}
    {identity : Gatehouse.Identity} :
    normalize id email name organization role onboarded = .ok identity ↔
      Uuid.parse (trim id) = .ok identity.id ∧
      (∃ address, EmailAddress.parse email = .ok address ∧ identity.email = address.text) ∧
      organizationOf organization = .ok identity.organizationId ∧
      identity.displayName = (presentText? name).getD identity.email ∧
      identity.role = ((presentText? role).map Role.mk).getD .fallback ∧ identity.onboarded = onboarded := by
  rw [normalize_eq]
  simp only [bind_eq_ok_iff, mapError_eq_ok_iff]
  constructor
  · rintro ⟨userId, hid, address, hemail, organizationId, horganization, h⟩
    cases h
    exact ⟨hid, ⟨address, hemail, rfl⟩, horganization, rfl, rfl, rfl⟩
  · rintro ⟨hid, ⟨address, hemail, htext⟩, horganization, hname, hrole, honboarded⟩
    refine ⟨identity.id, hid, address, hemail, identity.organizationId, horganization, ?_⟩
    rw [← htext, ← hname, ← hrole, ← honboarded]
    rfl

/-! ## Organizations -/

theorem organizationOf_of_isBlankText {s : String} (h : isBlankText s = true) : organizationOf (some s) = .ok none := by
  unfold organizationOf presentText?
  rw [Option.bind_some, nonBlank?_eq_ite, if_pos h]

theorem organizationOf_eq_ok_iff {s : String} (h : isBlankText s = false) {id : Option Uuid} :
    organizationOf (some s) = .ok id ↔ ∃ found, Uuid.parse (trim s) = .ok found ∧ some found = id := by
  unfold organizationOf presentText?
  rw [Option.bind_some, nonBlank?_eq_ite, if_neg (by simp [h])]
  exact map_eq_ok_iff

theorem organizationText_of_named {record : LoginRecord} {organization : OrganizationRecord}
    (hnamed : record.organization = some organization) :
    record.organizationText =
      if ∀ id ∈ record.user.organizationId, id = organization.id then .ok (some organization.id)
      else .error .organizationMismatch := by
  unfold LoginRecord.organizationText
  rw [hnamed]
  cases record.user.organizationId with
  | none => simp
  | some id =>
    simp only [Option.mem_def, Option.some.injEq, forall_eq']
    split_ifs with h h' h'
    · rfl
    · exact absurd h.symm h'
    · exact absurd h'.symm h
    · rfl

theorem organizationId_of_issueSession {secret : SigningSecret} {nonce : Nonce} {identity : Gatehouse.Identity}
    {provider : Option ProviderAccount} {lifetime : Time.Span} {now : Time.Instant} {issued : IssuedSession}
    (h : issueSession secret nonce identity provider lifetime now = .ok issued) :
    issued.claims.organizationId = identity.organizationId := by
  obtain ⟨-, rfl⟩ := eq_of_issueSession secret nonce h
  rfl

/-- The organization of an identity that is made of a record with `organization`: if the user has an `organizationId`
too, it is the same text. If that text is not blank, `Uuid.parse` reads it without the blanks around it, and the
identity and every session issued for it have this id. If it is blank, the identity has no organization. -/
theorem organization_of_identity {record : LoginRecord} {organization : OrganizationRecord}
    {identity : Gatehouse.Identity} (hnamed : record.organization = some organization)
    (hidentity : record.identity = .ok identity) :
    (∀ id ∈ record.user.organizationId, id = organization.id) ∧
    (isBlankText organization.id = false →
      ∃ id, Uuid.parse (trim organization.id) = .ok id ∧ identity.organizationId = some id ∧
        ∀ (secret : SigningSecret) (nonce : Nonce) (provider : Option ProviderAccount) (lifetime : Time.Span)
          (now : Time.Instant) (issued : IssuedSession),
          issueSession secret nonce identity provider lifetime now = .ok issued →
          issued.claims.organizationId = some id) ∧
    (isBlankText organization.id = true → identity.organizationId = none) := by
  unfold LoginRecord.identity at hidentity
  rw [organizationText_of_named hnamed, bind_eq_ok_iff] at hidentity
  obtain ⟨text, htext, hidentity⟩ := hidentity
  split_ifs at htext with hsame
  cases htext
  obtain ⟨-, -, horganization, -⟩ := normalize_eq_ok_iff.1 hidentity
  refine ⟨hsame, ?_, ?_⟩
  · intro hpresent
    obtain ⟨id, hid, hfound⟩ := (organizationOf_eq_ok_iff hpresent).1 horganization
    refine ⟨id, hid, hfound.symm, ?_⟩
    intro secret nonce provider lifetime now issued hissued
    rw [organizationId_of_issueSession hissued, hfound]
  · intro hblank
    rw [organizationOf_of_isBlankText hblank] at horganization
    exact (Except.ok.inj horganization).symm

/-- A login of Alice with the given names of her organization: in the record's organization, and as the user's own. -/
def aliceOf (organization : String) (own : Option String) : LoginRecord :=
  ⟨⟨"0190f3c2-7c4e-7a51-9a64-2f3b7c1d9e01", "alice@example.com", some "Alice", some "admin", own, true⟩,
    some ⟨organization, some "Acme"⟩⟩

/-- In braces, in capitals and with blanks around it, the text names the organization all the same. -/
theorem organization_of_identity_in_braces :
    ∃ identity, (aliceOf " {0190F3C2-7C4E-7A51-9A64-2F3B7C1D9E02}\n"
        (some " {0190F3C2-7C4E-7A51-9A64-2F3B7C1D9E02}\n")).identity = .ok identity ∧
      identity.organizationId = some ⟨0x0190f3c27c4e7a519a642f3b7c1d9e02⟩ := by
  have hidentity : (aliceOf " {0190F3C2-7C4E-7A51-9A64-2F3B7C1D9E02}\n"
      (some " {0190F3C2-7C4E-7A51-9A64-2F3B7C1D9E02}\n")).identity =
        .ok ⟨⟨0x0190f3c27c4e7a519a642f3b7c1d9e01⟩, "alice@example.com", "Alice",
          some ⟨0x0190f3c27c4e7a519a642f3b7c1d9e02⟩, .admin, true⟩ := by decide +kernel
  obtain ⟨-, hkept, -⟩ := organization_of_identity rfl hidentity
  obtain ⟨id, hid, horganization, -⟩ := hkept (by decide +kernel)
  refine ⟨_, hidentity, ?_⟩
  rw [horganization]
  have hparse : Uuid.parse (trim " {0190F3C2-7C4E-7A51-9A64-2F3B7C1D9E02}\n") =
      .ok ⟨0x0190f3c27c4e7a519a642f3b7c1d9e02⟩ := by decide +kernel
  exact congrArg some (Except.ok.inj (hid.symm.trans hparse))

/-- A record whose `organization` has two blanks as its id makes an identity without an organization, although
`Uuid.parse` does not read them. -/
theorem blank_organization_is_dropped :
    (aliceOf "  " none).organization = some ⟨"  ", some "Acme"⟩ ∧
    (aliceOf "  " none).identity =
      .ok ⟨⟨0x0190f3c27c4e7a519a642f3b7c1d9e01⟩, "alice@example.com", "Alice", none, .admin, true⟩ ∧
    Uuid.parse (trim "  ") = .error (.length 0) := by
  refine ⟨rfl, ?_, ?_⟩ <;> decide +kernel

end Gatehouse.Identity
