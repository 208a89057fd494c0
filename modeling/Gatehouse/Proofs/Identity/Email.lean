/-
Which texts are email addresses. A text is read as the address that it is without the blanks around it,
and there is at most one such address.
-/
import Gatehouse.Identity.Email
import Mathlib.Data.List.TakeWhile
import Mathlib.Tactic.SplitIfs

namespace Gatehouse.Identity

open Gatehouse.Text

/-- The text is an address: it is in the grammar, whose texts have at most 254 bytes. -/
structure IsAddress (text : String) : Prop where
  isAddress : isAddress text.toList = true
  length_le : text.utf8ByteSize ≤ 254

instance (text : String) : Decidable (IsAddress text) :=
  decidable_of_iff (isAddress text.toList = true ∧ text.utf8ByteSize ≤ 254)
    ⟨fun h => ⟨h.1, h.2⟩, fun h => ⟨h.1, h.2⟩⟩

theorem EmailAddress.isAddress (address : EmailAddress) : IsAddress address.text :=
  ⟨address.isAddress_text, address.length_le⟩

theorem EmailAddress.eq_of_text {a b : EmailAddress} (h : a.text = b.text) : a = b := by
  cases a
  cases b
  cases h
  rfl

theorem IsAddress.ne_empty {text : String} (h : IsAddress text) : text ≠ "" := by
  rintro rfl
  exact absurd h.isAddress (by decide)

theorem parse_of_isAddress {raw : String} (h : IsAddress (trim raw)) :
    EmailAddress.parse raw = .ok ⟨trim raw, h.isAddress, h.length_le⟩ := by
  have hempty : ¬ (trim raw).isEmpty = true := fun hempty => h.ne_empty (String.isEmpty_iff.1 hempty)
  have hchecks : (trim raw).utf8ByteSize ≤ maxAddressBytes ∧ Gatehouse.Identity.isAddress (trim raw).toList = true :=
    ⟨h.length_le, h.isAddress⟩
  unfold EmailAddress.parse
  simp only
  rw [if_neg hempty, dif_pos hchecks]

theorem parse_eq_ok_iff {raw : String} {address : EmailAddress} :
    EmailAddress.parse raw = .ok address ↔ address.text = trim raw := by
  constructor
  · intro h
    unfold EmailAddress.parse at h
    simp only at h
    split_ifs at h
    cases h
    rfl
  · intro h
    have hraw : IsAddress (trim raw) := h ▸ address.isAddress
    rw [parse_of_isAddress hraw]
    exact congrArg Except.ok (EmailAddress.eq_of_text h.symm)

theorem not_isAddress_of_isBlankText {raw : String} (h : isBlankText raw = true) : ¬ IsAddress (trim raw) := by
  intro haddress
  have hdrop : raw.toList.dropWhile isBlank = [] := List.dropWhile_eq_nil_iff.2 (List.all_eq_true.1 h)
  have htrim : trim raw = "" := by
    unfold trim strip
    rw [hdrop]
    rfl
  exact haddress.ne_empty htrim

end Gatehouse.Identity
