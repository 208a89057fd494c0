/-
Records that differ in how their identifiers are spelled. The identity depends on each identifier by its value
only, but whether a record names one organization or two is judged by the texts: a record whose two names of its
organization are spelled alike in the one record and differently in the other is refused in the second.
-/
import Gatehouse.Proofs.Identity.Record
import Gatehouse.Proofs.Identity.Spelling
import Mathlib.Data.Option.Basic

namespace Gatehouse.Identity

open Gatehouse.Text

/-! ## Texts -/

/-- The same text, or two spellings of one identifier. -/
def SpellAlike (a b : String) : Prop := a = b ∨ ∃ u : Uuid, u.IsSpelling a.toList ∧ u.IsSpelling b.toList

theorem spellAlike_of_parse {a b : String} {u : Uuid} (ha : Uuid.parse (trim a) = .ok u)
    (hb : Uuid.parse (trim b) = .ok u) : SpellAlike a b :=
  .inr ⟨u, parse_trim_eq_ok_iff.1 ha, parse_trim_eq_ok_iff.1 hb⟩

theorem parse_trim_congr {a b : String} (h : SpellAlike a b) : Uuid.parse (trim a) = Uuid.parse (trim b) := by
  rcases h with rfl | ⟨u, ha, hb⟩
  · rfl
  · rw [parse_trim_eq_ok_iff.2 ha, parse_trim_eq_ok_iff.2 hb]

theorem organizationOf_of_isSpelling {s : String} {u : Uuid} (h : u.IsSpelling s.toList) :
    organizationOf (some s) = .ok (some u) := by
  have hparse := parse_trim_eq_ok_iff.2 h
  have hpresent : isBlankText s = false := by
    rw [Bool.eq_false_iff]
    intro hblank
    rw [trim, strip_eq_nil_iff.2 (isBlankText_iff.1 hblank)] at hparse
    cases hparse
  exact (organizationOf_eq_ok_iff hpresent).2 ⟨u, hparse, rfl⟩

theorem organizationOf_congr {a b : Option String} (h : Option.Rel SpellAlike a b) :
    organizationOf a = organizationOf b := by
  cases h with
  | none => rfl
  | some h =>
    rcases h with rfl | ⟨u, ha, hb⟩
    · rfl
    · rw [organizationOf_of_isSpelling ha, organizationOf_of_isSpelling hb]

/-! ## Records -/

namespace LoginRecord

/-- The organization is named by one text, or not at all. -/
def NamesOneText (record : LoginRecord) : Prop :=
  ∀ organization ∈ record.organization, ∀ id ∈ record.user.organizationId, id = organization.id

instance (record : LoginRecord) : Decidable record.NamesOneText :=
  inferInstanceAs (Decidable (∀ organization ∈ record.organization, ∀ id ∈ record.user.organizationId, id = organization.id))

/-- The text that names the organization, that of the record before the user's own. -/
def organizationName (record : LoginRecord) : Option String :=
  (record.organization.map OrganizationRecord.id).or record.user.organizationId

/-- The other record differs in the spelling of identifiers, each of them for itself; the name of an organization
is not looked at. -/
structure Respelled (record other : LoginRecord) : Prop where
  id : SpellAlike record.user.id other.user.id
  organizationId : Option.Rel SpellAlike record.user.organizationId other.user.organizationId
  organization : Option.Rel SpellAlike (record.organization.map OrganizationRecord.id)
    (other.organization.map OrganizationRecord.id)
  email : record.user.email = other.user.email
  name : record.user.name = other.user.name
  role : record.user.role = other.user.role
  onboarded : record.user.onboarded = other.user.onboarded

end LoginRecord

theorem organizationText_eq (record : LoginRecord) :
    record.organizationText =
      if record.NamesOneText then .ok record.organizationName else .error .organizationMismatch := by
  cases h : record.organization with
  | none => simp [LoginRecord.organizationText, LoginRecord.NamesOneText, LoginRecord.organizationName, h]
  | some organization =>
    rw [organizationText_of_named h]
    simp [LoginRecord.NamesOneText, LoginRecord.organizationName, h]

theorem identity_eq_ite (record : LoginRecord) :
    record.identity =
      if record.NamesOneText then
        normalize record.user.id record.user.email record.user.name record.organizationName record.user.role
          record.user.onboarded
      else .error .organizationMismatch := by
  unfold LoginRecord.identity
  rw [organizationText_eq]
  split_ifs
  · simp only [bind, Except.bind]
  · simp only [bind, Except.bind]

theorem normalize_ne_organizationMismatch (id email : String) (name organization role : Option String)
    (onboarded : Bool) : normalize id email name organization role onboarded ≠ .error .organizationMismatch := by
  rw [normalize_eq]
  cases Uuid.parse (trim id) with
  | error e => exact nofun
  | ok u =>
    cases EmailAddress.parse email with
    | error e => exact nofun
    | ok address => cases organizationOf organization <;> exact nofun

theorem normalize_congr {id id' : String} {organization organization' : Option String} (hid : SpellAlike id id')
    (horganization : Option.Rel SpellAlike organization organization') (email : String) (name role : Option String)
    (onboarded : Bool) :
    normalize id email name organization role onboarded = normalize id' email name organization' role onboarded := by
  rw [normalize_eq, normalize_eq, parse_trim_congr hid, organizationOf_congr horganization]

section Respelled

variable {record other : LoginRecord} (h : record.Respelled other)
include h

/-- Both records name an organization in the same places. -/
theorem LoginRecord.Respelled.organizationName :
    Option.Rel SpellAlike record.organizationName other.organizationName := by
  unfold LoginRecord.organizationName
  have hnamed := h.organization
  generalize record.organization.map OrganizationRecord.id = a at hnamed ⊢
  generalize other.organization.map OrganizationRecord.id = b at hnamed ⊢
  cases hnamed with
  | some hnamed => exact .some hnamed
  | none => exact h.organizationId

theorem identity_congr (hnames : record.NamesOneText ↔ other.NamesOneText) : record.identity = other.identity := by
  rw [identity_eq_ite, identity_eq_ite, h.email, h.name, h.role, h.onboarded,
    normalize_congr h.id h.organizationName]
  simp only [hnames]

end Respelled

theorem identity_eq_organizationMismatch_iff (record : LoginRecord) :
    record.identity = .error .organizationMismatch ↔ ¬ record.NamesOneText := by
  rw [identity_eq_ite]
  split_ifs with hnames
  · simp [hnames, normalize_ne_organizationMismatch]
  · simp [hnames]

theorem namesOneText_of_once {record : LoginRecord}
    (h : record.organization = none ∨ record.user.organizationId = none) : record.NamesOneText := by
  intro organization horganization id hid
  rcases h with hnone | hnone
  · rw [hnone] at horganization
    cases horganization
  · rw [hnone] at hid
    cases hid

theorem eq_none_of_rel {r : String → String → Prop} {b : Option String} (h : Option.Rel r none b) : b = none := by
  cases h
  rfl

/-- Records that are `Respelled`, so differ in the spelling of their identifiers, have the same result of `identity`
exactly if both or neither `NamesOneText` for the organization. The result is `.organizationMismatch` exactly if the
record does not `NamesOneText`, also where both texts spell one identifier. If the organization is named in one place
at most, the results are the same. -/
theorem identity_of_respelled {record other : LoginRecord} (h : record.Respelled other) :
    (record.identity = other.identity ↔ (record.NamesOneText ↔ other.NamesOneText)) ∧
    (record.identity = .error .organizationMismatch ↔ ¬ record.NamesOneText) ∧
    (record.organization = none ∨ record.user.organizationId = none → record.identity = other.identity) := by
  refine ⟨⟨fun heq => ?_, identity_congr h⟩, identity_eq_organizationMismatch_iff record, fun honce => ?_⟩
  · rw [← not_iff_not, ← identity_eq_organizationMismatch_iff, ← identity_eq_organizationMismatch_iff, heq]
  · have hother : other.organization = none ∨ other.user.organizationId = none := by
      rcases honce with hnone | hnone
      · have hnamed := h.organization
        rw [hnone] at hnamed
        exact .inl (Option.map_eq_none_iff.1 (eq_none_of_rel hnamed))
      · have hown := h.organizationId
        rw [hnone] at hown
        exact .inr (eq_none_of_rel hown)
    exact identity_congr h (iff_of_true (namesOneText_of_once honce) (namesOneText_of_once hother))

/-- A login of Alice with her own identifier after the mark of a name, and that of her organization in braces. -/
def respelledAlice : LoginRecord :=
  { user := { (aliceOf "" none).user with
      id := "\tURN:uuid:0190F3C2-7C4E-7A51-9A64-2f3b7c1d9e01"
      organizationId := some " {0190F3C2-7C4E-7A51-9A64-2F3B7C1D9E02}\n" }
    organization := some ⟨" {0190F3C2-7C4E-7A51-9A64-2F3B7C1D9E02}\n", some "Acme"⟩ }

/-- If both names of the organization are respelled in one way, the result of `identity` stays the same. -/
theorem identity_of_respelled_in_braces :
    respelledAlice.identity =
      .ok ⟨⟨0x0190f3c27c4e7a519a642f3b7c1d9e01⟩, "alice@example.com", "Alice",
        some ⟨0x0190f3c27c4e7a519a642f3b7c1d9e02⟩, .admin, true⟩ := by
  have hspelled : SpellAlike "0190f3c2-7c4e-7a51-9a64-2f3b7c1d9e02" " {0190F3C2-7C4E-7A51-9A64-2F3B7C1D9E02}\n" :=
    spellAlike_of_parse (u := ⟨0x0190f3c27c4e7a519a642f3b7c1d9e02⟩) (by decide +kernel) (by decide +kernel)
  have hid : SpellAlike "0190f3c2-7c4e-7a51-9a64-2f3b7c1d9e01" "\tURN:uuid:0190F3C2-7C4E-7A51-9A64-2f3b7c1d9e01" :=
    spellAlike_of_parse (u := ⟨0x0190f3c27c4e7a519a642f3b7c1d9e01⟩) (by decide +kernel) (by decide +kernel)
  have hrespelled : (aliceOf "0190f3c2-7c4e-7a51-9a64-2f3b7c1d9e02"
      (some "0190f3c2-7c4e-7a51-9a64-2f3b7c1d9e02")).Respelled respelledAlice :=
    ⟨hid, .some hspelled, .some hspelled, rfl, rfl, rfl, rfl⟩
  rw [← (identity_of_respelled hrespelled).1.2 (by decide +kernel)]
  decide +kernel

/-- Respelling one of two names of the organization, in capitals, turns a record with an identity into one that is
refused as `.organizationMismatch`, although both names still spell one identifier. -/
theorem respelled_organization_is_refused :
    (aliceOf "0190f3c2-7c4e-7a51-9a64-2f3b7c1d9e02" (some "0190f3c2-7c4e-7a51-9a64-2f3b7c1d9e02")).Respelled
      (aliceOf "0190f3c2-7c4e-7a51-9a64-2f3b7c1d9e02" (some "0190F3C2-7C4E-7A51-9A64-2F3B7C1D9E02")) ∧
    (aliceOf "0190f3c2-7c4e-7a51-9a64-2f3b7c1d9e02" (some "0190f3c2-7c4e-7a51-9a64-2f3b7c1d9e02")).identity =
      .ok ⟨⟨0x0190f3c27c4e7a519a642f3b7c1d9e01⟩, "alice@example.com", "Alice",
        some ⟨0x0190f3c27c4e7a519a642f3b7c1d9e02⟩, .admin, true⟩ ∧
    (aliceOf "0190f3c2-7c4e-7a51-9a64-2f3b7c1d9e02" (some "0190F3C2-7C4E-7A51-9A64-2F3B7C1D9E02")).identity =
      .error .organizationMismatch := by
  have hspelled : SpellAlike "0190f3c2-7c4e-7a51-9a64-2f3b7c1d9e02" "0190F3C2-7C4E-7A51-9A64-2F3B7C1D9E02" :=
    spellAlike_of_parse (u := ⟨0x0190f3c27c4e7a519a642f3b7c1d9e02⟩) (by decide +kernel) (by decide +kernel)
  refine ⟨⟨.inl rfl, .some hspelled, .some (.inl rfl), rfl, rfl, rfl, rfl⟩, ?_, ?_⟩
  · decide +kernel
  · decide +kernel

end Gatehouse.Identity
