/-
Identities that normalizing makes. Their addresses, names and roles are trimmed and not empty, so whatever is told
once more of such an identity in its own words, by a record or by a profile, is normalized to the same identity.
-/
import Gatehouse.Proofs.Identity.Email
import Gatehouse.Proofs.Identity.Respelling

namespace Gatehouse.Identity

open Gatehouse.Text

/-! ## What normalizing makes -/

/-- An identity in its normal form: the address is an address as it stands, and the name and the role are trimmed. -/
structure IsNormal (identity : Gatehouse.Identity) : Prop where
  email : ∃ address, EmailAddress.parse identity.email = .ok address ∧ address.text = identity.email
  displayName : IsTrimmed identity.displayName
  role : IsTrimmed identity.role.name

theorem trim_text (address : EmailAddress) {raw : String} (h : EmailAddress.parse raw = .ok address) :
    trim address.text = address.text := by
  rw [parse_eq_ok_iff.1 h, trim_trim]

theorem isTrimmed_of_parse {raw : String} {address : EmailAddress} (h : EmailAddress.parse raw = .ok address) :
    IsTrimmed address.text := by
  have hpresent : isBlankText raw = false := by
    rw [Bool.eq_false_iff]
    intro hblank
    apply not_isAddress_of_isBlankText hblank
    rw [← parse_eq_ok_iff.1 h]
    exact address.isAddress
  rw [parse_eq_ok_iff.1 h]
  exact isTrimmed_trim hpresent

theorem isTrimmed_of_presentText? {text : Option String} {s : String} (h : presentText? text = some s) : IsTrimmed s := by
  obtain ⟨_, -, h⟩ := Option.bind_eq_some_iff.1 h
  exact isTrimmed_of_nonBlank? h

theorem isNormal_of_normalize {id email : String} {name organization role : Option String} {onboarded : Bool}
    {identity : Gatehouse.Identity} (h : normalize id email name organization role onboarded = .ok identity) :
    IsNormal identity := by
  obtain ⟨-, ⟨address, hemail, htext⟩, -, hname, hrole, -⟩ := normalize_eq_ok_iff.1 h
  have haddress := isTrimmed_of_parse hemail
  refine ⟨⟨address, ?_, htext.symm⟩, ?_, ?_⟩
  · rw [htext, parse_eq_ok_iff, trim_text address hemail]
  · rw [hname, htext]
    cases hpresent : presentText? name with
    | none => exact haddress
    | some s => exact isTrimmed_of_presentText? hpresent
  · rw [hrole]
    cases hpresent : presentText? role with
    | none => exact isTrimmed_of_nonBlank? (show nonBlank? "member" = some "member" by decide)
    | some s => exact isTrimmed_of_presentText? hpresent

/-! ## Identities told once more -/

/-- The record tells the identity in its own words: its identifiers as they are written, a name and a role, and its
organization, if there is one, in the record, as the user's own or in both places. -/
structure LoginRecord.Restates (record : LoginRecord) (identity : Gatehouse.Identity) : Prop where
  id : record.user.id = identity.id.render
  email : record.user.email = identity.email
  name : record.user.name = some identity.displayName
  role : record.user.role = some identity.role.name
  onboarded : record.user.onboarded = identity.onboarded
  organization : ∀ organization ∈ record.organization, some organization.id = identity.organizationId.map Uuid.render
  organizationId : ∀ id ∈ record.user.organizationId, some id = identity.organizationId.map Uuid.render
  named : identity.organizationId.isSome → record.organization.isSome ∨ record.user.organizationId.isSome

/-- The profile tells the identity in its own words; the provider and its token are any. -/
structure ProviderProfile.Restates (profile : ProviderProfile) (identity : Gatehouse.Identity) : Prop where
  userId : profile.userId = identity.id.render
  email : profile.email = identity.email
  name : profile.name = some identity.displayName
  role : profile.role = some identity.role.name
  onboarded : profile.onboarded = identity.onboarded
  organizationId : profile.organizationId = identity.organizationId.map Uuid.render

theorem isSpelling_render (u : Uuid) : u.IsSpelling u.render.toList := by
  rw [Uuid.render, String.toList_ofList]
  exact .hyphenated (hasDigits_hexDigits u)

theorem organizationOf_render (id : Option Uuid) : organizationOf (id.map Uuid.render) = .ok id := by
  cases id with
  | none => rfl
  | some u => exact organizationOf_of_isSpelling (isSpelling_render u)

theorem normalize_of_isNormal {identity : Gatehouse.Identity} (h : IsNormal identity) :
    normalize identity.id.render identity.email (some identity.displayName)
      (identity.organizationId.map Uuid.render) (some identity.role.name) identity.onboarded = .ok identity := by
  obtain ⟨address, hparse, htext⟩ := h.email
  refine normalize_eq_ok_iff.2 ⟨parse_trim_eq_ok_iff.2 (isSpelling_render _), ⟨address, hparse, htext.symm⟩,
    organizationOf_render _, ?_, ?_, rfl⟩
  · rw [presentText?, Option.bind_some, h.displayName.nonBlank?, Option.getD_some]
  · rw [presentText?, Option.bind_some, h.role.nonBlank?, Option.map_some, Option.getD_some]

section Record

variable {record : LoginRecord} {identity : Gatehouse.Identity} (h : record.Restates identity)
include h

theorem LoginRecord.Restates.namesOneText : record.NamesOneText := by
  intro organization horganization id hid
  exact Option.some.inj ((h.organizationId id hid).trans (h.organization organization horganization).symm)

theorem LoginRecord.Restates.organizationName : record.organizationName = identity.organizationId.map Uuid.render := by
  unfold LoginRecord.organizationName
  cases hnamed : record.organization with
  | some organization => exact h.organization organization hnamed
  | none =>
    cases hown : record.user.organizationId with
    | some id => exact h.organizationId id hown
    | none =>
      cases hid : identity.organizationId with
      | none => rfl
      | some id =>
        have := h.named (by rw [hid]; rfl)
        rw [hnamed, hown] at this
        cases this <;> contradiction

end Record

/-- An identity that some record or some profile is normalized to `IsNormal`: its address parses to itself, and its
name and role are trimmed and not empty. Every record that `Restates` it, with the organization in one place or in
both, and every profile that `Restates` it are normalized to the same identity. -/
theorem identity_of_restated {identity : Gatehouse.Identity}
    (h : (∃ record : LoginRecord, record.identity = .ok identity) ∨
      ∃ profile : ProviderProfile, profile.identity = .ok identity) :
    IsNormal identity ∧ (∀ record : LoginRecord, record.Restates identity → record.identity = .ok identity) ∧
    ∀ profile : ProviderProfile, profile.Restates identity → profile.identity = .ok identity := by
  have hnormal : IsNormal identity := by
    rcases h with ⟨record, h⟩ | ⟨profile, h⟩
    · rw [identity_eq_ite] at h
      split_ifs at h
      exact isNormal_of_normalize h
    · exact isNormal_of_normalize h
  have hidentity := normalize_of_isNormal hnormal
  refine ⟨hnormal, fun record hrecord => ?_, fun profile hprofile => ?_⟩
  · rw [identity_eq_ite, if_pos hrecord.namesOneText, hrecord.organizationName, hrecord.id, hrecord.email, hrecord.name,
      hrecord.role, hrecord.onboarded]
    exact hidentity
  · rw [ProviderProfile.identity, hprofile.userId, hprofile.email, hprofile.name, hprofile.role, hprofile.onboarded,
      hprofile.organizationId]
    exact hidentity

/-- A profile with blanks around everything and neither a name nor a role, and the record of what came of it. -/
theorem identity_of_restated_nameless :
    ∃ identity : Gatehouse.Identity,
      ProviderProfile.identity ⟨"google", "\u2003{0190F3C2-7C4E-7A51-9A64-2F3B7C1D9E01}", " Bob@Example.com\n", some "\t",
        some "0190F3C27C4E7A519A642F3B7C1D9E02\u3000", none, false, "ya29"⟩ = .ok identity ∧
      identity.displayName = "Bob@Example.com" ∧
      LoginRecord.identity ⟨⟨"0190f3c2-7c4e-7a51-9a64-2f3b7c1d9e01", "Bob@Example.com", some "Bob@Example.com",
          some "member", some "0190f3c2-7c4e-7a51-9a64-2f3b7c1d9e02", false⟩,
        some ⟨"0190f3c2-7c4e-7a51-9a64-2f3b7c1d9e02", none⟩⟩ = .ok identity := by
  have hidentity : ProviderProfile.identity ⟨"google", "\u2003{0190F3C2-7C4E-7A51-9A64-2F3B7C1D9E01}",
      " Bob@Example.com\n", some "\t", some "0190F3C27C4E7A519A642F3B7C1D9E02\u3000", none, false, "ya29"⟩ =
        .ok ⟨⟨0x0190f3c27c4e7a519a642f3b7c1d9e01⟩, "Bob@Example.com", "Bob@Example.com",
          some ⟨0x0190f3c27c4e7a519a642f3b7c1d9e02⟩, .member, false⟩ := by decide +kernel
  obtain ⟨-, hrecord, -⟩ := identity_of_restated (.inr ⟨_, hidentity⟩)
  refine ⟨_, hidentity, rfl, hrecord _ ⟨by decide +kernel, rfl, rfl, rfl, rfl, ?_, ?_, fun _ => .inl rfl⟩⟩
  · rintro _ ⟨⟩
    decide +kernel
  · rintro _ ⟨⟩
    decide +kernel

end Gatehouse.Identity
