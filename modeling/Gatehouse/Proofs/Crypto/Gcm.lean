/-
Opening undoes sealing: the stream that is added to a text is added once more, and the tag that is
compared is the one that was written. What is sealed is as long as the text and a tag. Nothing is opened
but what ends in the tag of all before it.
-/
import Gatehouse.Crypto.Gcm

namespace Gatehouse.Crypto.Gcm

/-! ## The stream -/

@[simp] theorem length_addBlock (block bytes : List UInt8) : (addBlock block bytes).length = bytes.length :=
  List.length_mapIdx

theorem addBlock_addBlock (block bytes : List UInt8) : addBlock block (addBlock block bytes) = bytes := by
  apply List.ext_getElem (by simp)
  intro i h1 h2
  simp only [addBlock, List.getElem_mapIdx]
  rw [UInt8.xor_assoc, UInt8.xor_self, UInt8.xor_zero]

variable (keys : List (List UInt8)) (nonce : List UInt8)

@[simp] theorem addStream_nil (counter : Nat) : addStream keys nonce counter [] = [] := by
  rw [addStream, dif_pos rfl]

theorem addStream_of_ne_nil (counter : Nat) {bytes : List UInt8} (h : bytes ≠ []) :
    addStream keys nonce counter bytes = addBlock (counterBlock keys nonce counter) (bytes.take 16) ++
      addStream keys nonce (counter + 1) (bytes.drop 16) := by
  rw [addStream, dif_neg h]

@[simp] theorem length_addStream (counter : Nat) (bytes : List UInt8) :
    (addStream keys nonce counter bytes).length = bytes.length := by
  fun_induction addStream keys nonce counter bytes with
  | case1 => rfl
  | case2 counter bytes h ih =>
    rw [List.length_append, length_addBlock, ih, List.length_take, List.length_drop]
    omega

theorem addStream_append (counter : Nat) {first rest : List UInt8} (hne : first ≠ [])
    (h : first.length = 16 ∨ rest = []) (hle : first.length ≤ 16) :
    addStream keys nonce counter (first ++ rest) =
      addBlock (counterBlock keys nonce counter) first ++ addStream keys nonce (counter + 1) rest := by
  rw [addStream_of_ne_nil keys nonce counter (by simp [hne])]
  rcases h with h | rfl
  · rw [List.take_left' h, List.drop_left' h]
  · rw [List.append_nil, List.take_of_length_le hle, List.drop_of_length_le hle]

theorem addStream_addStream (counter : Nat) (bytes : List UInt8) :
    addStream keys nonce counter (addStream keys nonce counter bytes) = bytes := by
  fun_induction addStream keys nonce counter bytes with
  | case1 => exact addStream_nil keys nonce _
  | case2 counter bytes h ih =>
    -- the sum is cut into blocks where the text was: a block is full, or nothing follows it
    have hlen : (bytes.take 16).length = 16 ∨ addStream keys nonce (counter + 1) (bytes.drop 16) = [] := by
      rcases Nat.lt_or_ge bytes.length 16 with hlt | hge
      · rw [List.drop_of_length_le (by omega)]
        exact .inr (addStream_nil keys nonce _)
      · exact .inl (by rw [List.length_take]; omega)
    have hne : addBlock (counterBlock keys nonce counter) (bytes.take 16) ≠ [] := by
      rw [← List.length_pos_iff, length_addBlock, List.length_take]
      have := List.length_pos_iff.2 h
      omega
    rw [addStream_append keys nonce counter hne (by rwa [length_addBlock])
      (by rw [length_addBlock, List.length_take]; omega), addBlock_addBlock, ih, List.take_append_drop]

/-! ## Sealing and opening -/

theorem length_encrypt (key nonce text : List UInt8) : (encrypt key nonce text).length = text.length + tagLength := by
  simp only [encrypt, List.length_append, length_addStream, length_tag]

/-- `decrypt?` succeeds exactly on bytes that end in their own `tag`, and takes the stream off those before it. -/
theorem decrypt?_eq_some_iff {key nonce bytes text : List UInt8} :
    decrypt? key nonce bytes = some text ↔
      ∃ sealedBytes, bytes = sealedBytes ++ tag (Aes.roundKeys key) nonce sealedBytes ∧
        text = addStream (Aes.roundKeys key) nonce 2 sealedBytes := by
  constructor
  · intro h
    simp only [decrypt?] at h
    split at h
    · rename_i htag
      cases h
      refine ⟨bytes.take (bytes.length - tagLength), ?_, rfl⟩
      rw [← htag.2, List.take_append_drop]
    · cases h
  · rintro ⟨sealedBytes, rfl, rfl⟩
    have hlen : (sealedBytes ++ tag (Aes.roundKeys key) nonce sealedBytes).length - tagLength = sealedBytes.length := by
      rw [List.length_append, length_tag, Nat.add_sub_cancel]
    simp only [decrypt?, hlen, List.take_left, List.drop_left]
    rw [if_pos ⟨by simp [length_tag], trivial⟩]

theorem decrypt?_encrypt (key nonce text : List UInt8) :
    decrypt? key nonce (encrypt key nonce text) = some text :=
  decrypt?_eq_some_iff.2 ⟨addStream (Aes.roundKeys key) nonce 2 text, rfl, (addStream_addStream _ _ _ _).symm⟩

end Gatehouse.Crypto.Gcm
