/-
The bytes of characters: an ASCII character is one byte below 128, any other has only bytes from
128 on, so that a text of ASCII characters and its bytes are the same sequence of numbers.
-/
import Gatehouse.Text.Basic

namespace Gatehouse.Text

/-! ## One character -/

theorem utf8EncodeChar_of_lt {c : Char} (h : c.toNat < 128) :
    String.utf8EncodeChar c = [UInt8.ofNat c.toNat] := by
  have h' : c.val.toNat ≤ 0x7f := Nat.le_of_lt_succ h
  unfold String.utf8EncodeChar
  exact if_pos h'

theorem le_of_mem_utf8EncodeChar {c : Char} {b : UInt8} (hc : 128 ≤ c.toNat)
    (hb : b ∈ String.utf8EncodeChar c) : 128 ≤ b.toNat := by
  have hv : 128 ≤ c.val.toNat := hc
  unfold String.utf8EncodeChar at hb
  simp only at hb
  split at hb
  · omega
  · split at hb
    · simp only [List.mem_cons, List.not_mem_nil, or_false] at hb
      rcases hb with rfl | rfl <;> simp only [UInt8.toNat_ofNat'] <;> omega
    · split at hb
      · simp only [List.mem_cons, List.not_mem_nil, or_false] at hb
        rcases hb with rfl | rfl | rfl <;> simp only [UInt8.toNat_ofNat'] <;> omega
      · simp only [List.mem_cons, List.not_mem_nil, or_false] at hb
        rcases hb with rfl | rfl | rfl | rfl <;> simp only [UInt8.toNat_ofNat'] <;> omega

theorem length_pos_utf8EncodeChar (c : Char) : 1 ≤ (String.utf8EncodeChar c).length := by
  rw [String.length_utf8EncodeChar]; exact c.utf8Size_pos

/-! ## Texts -/

@[simp] theorem utf8Bytes_nil : utf8Bytes [] = [] := rfl

theorem length_le_length_utf8Bytes (cs : List Char) : cs.length ≤ (utf8Bytes cs).length := by
  induction cs with
  | nil => exact Nat.le_refl 0
  | cons c cs ih =>
    rw [utf8Bytes_cons, List.length_append, List.length_cons]
    have := length_pos_utf8EncodeChar c
    omega

theorem utf8Bytes_of_lt {cs : List Char} (h : ∀ c ∈ cs, c.toNat < 128) :
    utf8Bytes cs = cs.map fun c => UInt8.ofNat c.toNat := by
  induction cs with
  | nil => rfl
  | cons c cs ih =>
    rw [utf8Bytes_cons, utf8EncodeChar_of_lt (h c (List.mem_cons_self ..)),
      ih fun d hd => h d (List.mem_cons_of_mem _ hd)]
    rfl

theorem asciiOf_utf8Bytes {cs : List Char} (h : ∀ c ∈ cs, c.toNat < 128) :
    asciiOf (utf8Bytes cs) = String.ofList cs := by
  rw [utf8Bytes_of_lt h, asciiOf, List.map_map]
  congr 1
  conv => rhs; rw [← List.map_id cs]
  refine List.map_congr_left fun c hc => ?_
  have := h c hc
  simp only [Function.comp, UInt8.toNat_ofNat', id]
  rw [Nat.mod_eq_of_lt (by omega), Char.ofNat_toNat]

theorem ofBytes?_utf8Bytes (cs : List Char) : ofBytes? (utf8Bytes cs) = some (String.ofList cs) := by
  have := ofBytes?_bytesOf (String.ofList cs)
  rwa [bytesOf, String.toList_ofList] at this

end Gatehouse.Text
