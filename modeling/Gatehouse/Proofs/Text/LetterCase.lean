/-
Letters of ASCII in either case. A small letter stands for one capital besides itself, and any other character
for itself alone; a hexadecimal digit has its number in both cases.
-/
import Gatehouse.Text.Basic
import Mathlib.Data.List.Forall2
import Mathlib.Tactic.SplitIfs

namespace Gatehouse.Text

/-- A capital letter is the only character that a small letter is made of. -/
theorem toLower_eq {c d : Char} (h : c.toLower = d) :
    c = d ∨ 65 ≤ c.toNat ∧ c.toNat ≤ 90 ∧ d.toNat = c.toNat + 32 := by
  unfold Char.toLower at h
  split at h
  · rename_i hcapital
    right
    have hlo : 65 ≤ c.toNat := hcapital.1
    have hhi : c.toNat ≤ 90 := hcapital.2
    refine ⟨hlo, hhi, ?_⟩
    rw [← h]
    show (c.val + 32).toNat = c.val.toNat + 32
    have hval : c.val.toNat ≤ 90 := hhi
    rw [UInt32.toNat_add]
    exact Nat.mod_eq_of_lt (by simp; omega)
  · exact .inl h

/-- Of a mark or a digit there is one case only. -/
theorem eq_of_toLower_eq {c d : Char} (hd : d.toNat < 97) (h : c.toLower = d) : c = d := by
  rcases toLower_eq h with h | h
  · exact h
  · omega

/-- What holds of the first characters, tried one by one, holds of every character among them. -/
theorem forall_of_toNat_lt {bound : Nat} {P : Char → Prop} (h : ∀ n < bound, P (Char.ofNat n)) {c : Char}
    (hc : c.toNat < bound) : P c := by
  rw [← Char.ofNat_toNat c]
  exact h c.toNat hc

theorem toLower_eq_iff {c letter : Char} (h : letter.isLower = true) :
    c.toLower = letter ↔ c = letter ∨ c = letter.toUpper := by
  constructor
  · intro hc
    rcases toLower_eq hc with hc | ⟨hlo, hhi, -⟩
    · exact .inl hc
    · have hback := forall_of_toNat_lt (P := fun c => 65 ≤ c.toNat → c.toLower.toUpper = c) (by decide)
        (Nat.lt_succ_of_le hhi) hlo
      rw [hc] at hback
      exact .inr hback.symm
  · have hletter : letter.toNat < 123 := by
      obtain ⟨-, hle⟩ := Bool.and_eq_true_iff.1 h
      exact Nat.lt_succ_of_le (of_decide_eq_true hle)
    have hboth := forall_of_toNat_lt
      (P := fun c => c.isLower = true → c.toLower = c ∧ c.toUpper.toLower = c) (by decide) hletter h
    rintro (rfl | rfl)
    · exact hboth.1
    · exact hboth.2

theorem map_toLower_eq_iff {cs letters : List Char} (h : ∀ c ∈ letters, c.isLower = true) :
    cs.map Char.toLower = letters ↔ List.Forall₂ (fun c letter => c = letter ∨ c = letter.toUpper) cs letters := by
  induction letters generalizing cs with
  | nil => rw [List.map_eq_nil_iff, List.forall₂_nil_right_iff]
  | cons letter letters ih =>
    rw [List.forall_mem_cons] at h
    rw [List.map_eq_cons_iff, List.forall₂_cons_right_iff]
    simp only [toLower_eq_iff h.1, ih h.2]
    constructor
    · rintro ⟨c, rest, rfl, hc, hrest⟩
      exact ⟨c, rest, hc, hrest, rfl⟩
    · rintro ⟨c, rest, hc, hrest, rfl⟩
      exact ⟨c, rest, rfl, hc, hrest⟩

/-! ## Hexadecimal digits -/

namespace Hex

theorem toNat_of_value? {c : Char} {d : Nat} (h : value? c = some d) : 48 ≤ c.toNat ∧ c.toNat ≤ 102 := by
  unfold value? at h
  split_ifs at h with hdigit hsmall hcapital
  · have hlo : 48 ≤ c.toNat := hdigit.1
    have hhi : c.toNat ≤ 57 := hdigit.2
    omega
  · have hlo : 97 ≤ c.toNat := hsmall.1
    have hhi : c.toNat ≤ 102 := hsmall.2
    omega
  · have hlo : 65 ≤ c.toNat := hcapital.1
    have hhi : c.toNat ≤ 70 := hcapital.2
    omega

theorem toLower_of_value? {c : Char} {d : Nat} (h : value? c = some d) : d < 16 ∧ c.toLower = lower d := by
  have hsmall : c.toNat < 103 := Nat.lt_succ_of_le (toNat_of_value? h).2
  exact forall_of_toNat_lt (P := fun c => ∀ d ∈ value? c, d < 16 ∧ c.toLower = lower d) (by decide) hsmall d h

theorem value?_toLower (c : Char) : value? c.toLower = value? c := by
  rcases toLower_eq (c := c) rfl with h | ⟨-, hhi, -⟩
  · rw [← h]
  · have hsmall : c.toNat < 91 := Nat.lt_succ_of_le hhi
    exact forall_of_toNat_lt (P := fun c => value? c.toLower = value? c) (by decide) hsmall

theorem number?_map_toLower (cs : List Char) : number? (cs.map Char.toLower) = number? cs := by
  simp only [number?, List.foldl_map, value?_toLower]

end Hex

end Gatehouse.Text
