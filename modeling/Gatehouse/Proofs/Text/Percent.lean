/-
Percent escapes are undone by decoding: whatever characters are kept, as long as the percent sign is not
among them, the bytes of a text come back, and so does the text.
-/
import Gatehouse.Proofs.Text.Plain

namespace Gatehouse.Text.Percent

variable {keep : Char → Bool}

theorem digits_lt (b : UInt8) : b.toNat / 16 < 16 ∧ b.toNat % 16 < 16 :=
  ⟨Nat.div_lt_of_lt_mul b.toNat_lt, Nat.mod_lt _ (by decide)⟩

theorem decode_escape (b : UInt8) (rest : List Char) : decode (escape b ++ rest) = b :: decode rest := by
  obtain ⟨hhigh, hlow⟩ := digits_lt b
  have hbyte : UInt8.ofNat (16 * (b.toNat / 16) + b.toNat % 16) = b := by
    rw [Nat.div_add_mod, UInt8.ofNat_toNat]
  simp only [escape, List.cons_append, List.nil_append]
  rw [decode, Hex.value?_upper _ hhigh, Hex.value?_upper _ hlow]
  exact congrArg (· :: decode rest) hbyte

theorem decode_flatMap_escape (bs : List UInt8) (rest : List Char) :
    decode (bs.flatMap escape ++ rest) = bs ++ decode rest := by
  induction bs with
  | nil => rfl
  | cons b bs ih => rw [List.flatMap_cons, List.append_assoc, decode_escape, ih, List.cons_append]

theorem decode_encodeWith (hpercent : keep '%' = false) (cs : List Char) :
    decode (encodeWith keep cs) = utf8Bytes cs := by
  unfold encodeWith
  induction cs with
  | nil => rfl
  | cons c cs ih =>
    rw [List.flatMap_cons, utf8Bytes_cons]
    split
    · rename_i hkeep
      have hc : c ≠ '%' := by
        rintro rfl
        rw [hpercent] at hkeep
        cases hkeep
      rw [List.singleton_append, decode_cons hc, ih]
    · rw [decode_flatMap_escape, ih]

theorem decodeText?_encodeWith (hpercent : keep '%' = false) (cs : List Char) :
    decodeText? (encodeWith keep cs) = some (String.ofList cs) := by
  rw [decodeText?, decode_encodeWith hpercent, ofBytes?_utf8Bytes]

/-! ## What encoded texts are made of -/

/-- A text of characters that are kept and of escapes, and of nothing else. -/
inductive IsEncoded (keep : Char → Bool) : List Char → Prop
  | nil : IsEncoded keep []
  | kept {c : Char} {cs : List Char} (hc : keep c = true) (hcs : IsEncoded keep cs) : IsEncoded keep (c :: cs)
  | escape {a b : Char} {cs : List Char} (ha : Hex.isDigit a = true) (hb : Hex.isDigit b = true)
      (hcs : IsEncoded keep cs) : IsEncoded keep ('%' :: a :: b :: cs)

theorem isDigit_upper {n : Nat} (h : n < 16) : Hex.isDigit (Hex.upper n) = true := by
  rw [Hex.isDigit, Hex.value?_upper n h]
  rfl

theorem IsEncoded.flatMap_escape (bs : List UInt8) {rest : List Char} (h : IsEncoded keep rest) :
    IsEncoded keep (bs.flatMap Percent.escape ++ rest) := by
  induction bs with
  | nil => exact h
  | cons b bs ih =>
    obtain ⟨hhigh, hlow⟩ := digits_lt b
    rw [List.flatMap_cons, List.append_assoc]
    exact .escape (isDigit_upper hhigh) (isDigit_upper hlow) ih

theorem isEncoded_encodeWith (keep : Char → Bool) (cs : List Char) : IsEncoded keep (encodeWith keep cs) := by
  unfold encodeWith
  induction cs with
  | nil => exact .nil
  | cons c cs ih =>
    rw [List.flatMap_cons]
    split
    · rename_i hkeep
      exact .kept hkeep ih
    · exact ih.flatMap_escape _

theorem IsEncoded.mem {cs : List Char} (h : IsEncoded keep cs) {c : Char} (hc : c ∈ cs) :
    keep c = true ∨ c = '%' ∨ Hex.isDigit c = true := by
  induction h with
  | nil => cases hc
  | kept hd _ ih =>
    rcases List.mem_cons.1 hc with rfl | hc
    · exact .inl hd
    · exact ih hc
  | escape ha hb _ ih =>
    rcases List.mem_cons.1 hc with rfl | hc
    · exact .inr (.inl rfl)
    rcases List.mem_cons.1 hc with rfl | hc
    · exact .inr (.inr ha)
    rcases List.mem_cons.1 hc with rfl | hc
    · exact .inr (.inr hb)
    · exact ih hc

end Gatehouse.Text.Percent
