/-
An identifier that is written is read as itself: its 32 digits stand for its number, and the hyphens
between them are the ones that reading looks for.
-/
import Gatehouse.Identity.Uuid
import Gatehouse.Proofs.Text.Utf8

namespace Gatehouse.Identity

open Gatehouse.Text

/-! ## Digits -/

theorem length_hexDigits (width n : Nat) : (hexDigits width n).length = width := by
  induction width generalizing n with
  | zero => rfl
  | succ w ih => rw [hexDigits, List.length_append, ih]; rfl

theorem exists_lower_of_mem_hexDigits {width n : Nat} {c : Char} (h : c ∈ hexDigits width n) :
    ∃ d < 16, c = Hex.lower d := by
  induction width generalizing n with
  | zero => cases h
  | succ w ih =>
    rw [hexDigits, List.mem_append, List.mem_singleton] at h
    rcases h with h | rfl
    · exact ih h
    · exact ⟨n % 16, Nat.mod_lt _ (by decide), rfl⟩

theorem lower_ne_hyphen : ∀ d < 16, Hex.lower d ≠ '-' := by decide

theorem lower_lt : ∀ d < 16, (Hex.lower d).toNat < 128 := by decide

theorem number?_append (cs : List Char) (c : Char) :
    Hex.number? (cs ++ [c]) = do return 16 * (← Hex.number? cs) + (← Hex.value? c) := by
  rw [Hex.number?, List.foldl_append]
  rfl

theorem number?_hexDigits (width n : Nat) : Hex.number? (hexDigits width n) = some (n % Nat.pow 16 width) := by
  induction width generalizing n with
  | zero => exact congrArg some (Nat.mod_one n).symm
  | succ w ih =>
    rw [hexDigits, number?_append, ih, Hex.value?_lower _ (Nat.mod_lt _ (by decide))]
    show some (16 * (n / 16 % Nat.pow 16 w) + n % 16) = some (n % (Nat.pow 16 w * 16))
    rw [Nat.mul_comm _ 16, Nat.mod_mul, Nat.add_comm]

/-! ## Hyphens -/

/-- The five groups of 32 digits. -/
def groups (digits : List Char) : List (List Char) :=
  [digits.take 8, (digits.drop 8).take 4, (digits.drop 12).take 4, (digits.drop 16).take 4, digits.drop 20]

theorem hyphenate_eq (digits : List Char) : hyphenate digits = ['-'].intercalate (groups digits) := by
  simp [hyphenate, groups]

theorem mem_of_mem_groups {digits group : List Char} (h : group ∈ groups digits) {c : Char} (hc : c ∈ group) :
    c ∈ digits := by
  simp only [groups, List.mem_cons, List.not_mem_nil, or_false] at h
  rcases h with rfl | rfl | rfl | rfl | rfl
  · exact List.mem_of_mem_take hc
  · exact List.mem_of_mem_drop (List.mem_of_mem_take hc)
  · exact List.mem_of_mem_drop (List.mem_of_mem_take hc)
  · exact List.mem_of_mem_drop (List.mem_of_mem_take hc)
  · exact List.mem_of_mem_drop hc

theorem flatten_groups (digits : List Char) : (groups digits).flatten = digits := by
  have h12 : digits.drop 12 = (digits.drop 8).drop 4 := by rw [List.drop_drop]
  have h16 : digits.drop 16 = ((digits.drop 8).drop 4).drop 4 := by rw [List.drop_drop, List.drop_drop]
  have h20 : digits.drop 20 = (((digits.drop 8).drop 4).drop 4).drop 4 := by
    rw [List.drop_drop, List.drop_drop, List.drop_drop]
  simp only [groups, List.flatten_cons, List.flatten_nil, List.append_nil]
  rw [h12, h16, h20, List.take_append_drop, List.take_append_drop, List.take_append_drop,
    List.take_append_drop]

theorem joinGroups?_hyphenate {digits : List Char} (hlen : digits.length = 32) (hd : '-' ∉ digits) :
    joinGroups? (hyphenate digits) = some digits := by
  have hsplit : (hyphenate digits).splitOn '-' = groups digits := by
    rw [hyphenate_eq]
    exact List.splitOn_intercalate '-' (fun g hg hc => hd (mem_of_mem_groups hg hc)) (by simp [groups])
  have hlens : (groups digits).map List.length = [8, 4, 4, 4, 12] := by
    simp [groups, hlen]
  simp only [joinGroups?, hsplit]
  rw [if_pos hlens, flatten_groups]

theorem byteLength_of_lt {cs : List Char} (h : ∀ c ∈ cs, c.toNat < 128) : byteLength cs = cs.length := by
  rw [byteLength, utf8Bytes_of_lt h, List.length_map]

theorem mem_hyphenate {digits : List Char} {c : Char} (h : c ∈ hyphenate digits) : c = '-' ∨ c ∈ digits := by
  simp only [hyphenate, List.mem_append, List.mem_cons] at h
  rcases h with (((h | h | h) | h | h) | h | h) | h | h
  · exact .inr (List.mem_of_mem_take h)
  · exact .inl h
  · exact .inr (List.mem_of_mem_drop (List.mem_of_mem_take h))
  · exact .inl h
  · exact .inr (List.mem_of_mem_drop (List.mem_of_mem_take h))
  · exact .inl h
  · exact .inr (List.mem_of_mem_drop (List.mem_of_mem_take h))
  · exact .inl h
  · exact .inr (List.mem_of_mem_drop h)

theorem uuidDigits?_hyphenate {digits : List Char} (hlen : digits.length = 32) (hd : '-' ∉ digits)
    (hlt : ∀ c ∈ digits, c.toNat < 128) : uuidDigits? (hyphenate digits) = some digits := by
  have hascii : ∀ c ∈ hyphenate digits, c.toNat < 128 := by
    intro c hc
    rcases mem_hyphenate hc with rfl | hc
    · decide
    · exact hlt c hc
  have hbytes : byteLength (hyphenate digits) = 36 := by
    rw [byteLength_of_lt hascii]
    simp [hyphenate, hlen]
  rw [uuidDigits?, hyphenatedPart?, hbytes, if_neg (by decide), if_pos rfl, Option.bind_some]
  exact joinGroups?_hyphenate hlen hd

theorem parse_render (u : Uuid) : Uuid.parse u.render = .ok u := by
  have hmem : ∀ c ∈ hexDigits 32 u.value.toNat, c ≠ '-' ∧ c.toNat < 128 := by
    intro c hc
    obtain ⟨d, hd, rfl⟩ := exists_lower_of_mem_hexDigits hc
    exact ⟨lower_ne_hyphen d hd, lower_lt d hd⟩
  have hdigits : uuidDigits? u.render.toList = some (hexDigits 32 u.value.toNat) := by
    rw [Uuid.render, String.toList_ofList]
    exact uuidDigits?_hyphenate (length_hexDigits _ _) (fun h => (hmem _ h).1 rfl) fun c hc => (hmem c hc).2
  have hval : u.value.toNat % Nat.pow 16 32 = u.value.toNat := Nat.mod_eq_of_lt u.value.isLt
  rw [Uuid.parse, hdigits, Option.bind_some, number?_hexDigits, hval]
  simp

end Gatehouse.Identity
