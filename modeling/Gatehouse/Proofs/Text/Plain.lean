/-
Texts that nothing has to be done to: without a percent sign there is nothing to decode, and what stands
before a mark is not cut at it. Base64 digits and dots make such texts, and hold no blank.
-/
import Gatehouse.Proofs.Text.Base64Url
import Gatehouse.Proofs.Text.Blank
import Gatehouse.Proofs.Text.Utf8
import Gatehouse.Text.Basic

namespace Gatehouse.Text

/-! ## Escapes -/

theorem decode_cons {c : Char} (h : c ≠ '%') (cs : List Char) :
    Percent.decode (c :: cs) = String.utf8EncodeChar c ++ Percent.decode cs := by
  rw [Percent.decode.eq_def]
  split
  · rename_i heq; exact nomatch heq
  · rename_i heq; exact absurd (List.cons.inj heq).1 h
  · rename_i heq
    obtain ⟨rfl, rfl⟩ := List.cons.inj heq
    rfl

theorem decode_of_notMem {cs : List Char} (h : '%' ∉ cs) : Percent.decode cs = utf8Bytes cs := by
  induction cs with
  | nil => rfl
  | cons c cs ih =>
    rw [List.mem_cons, not_or] at h
    rw [decode_cons (Ne.symm h.1), ih h.2, utf8Bytes_cons]

theorem decodeText?_of_notMem {cs : List Char} (h : '%' ∉ cs) : Percent.decodeText? cs = some (String.ofList cs) := by
  rw [Percent.decodeText?, decode_of_notMem h, ofBytes?_utf8Bytes]

/-! ## Marks -/

section Mark

variable {mark : Char} {cs : List Char} (h : mark ∉ cs)
include h

theorem bne_of_notMem : ∀ c ∈ cs, (c != mark) = true := by
  intro c hc
  rw [bne_iff_ne]
  rintro rfl
  exact h hc

theorem takeWhile_of_notMem : cs.takeWhile (· != mark) = cs :=
  List.takeWhile_eq_self_iff.2 (bne_of_notMem h)

theorem dropWhile_of_notMem : cs.dropWhile (· != mark) = [] :=
  List.dropWhile_eq_nil_iff.2 (bne_of_notMem h)

theorem takeWhile_append_mark (rest : List Char) : (cs ++ mark :: rest).takeWhile (· != mark) = cs := by
  rw [List.takeWhile_append_of_pos (bne_of_notMem h), List.takeWhile_cons_of_neg (by simp), List.append_nil]

theorem dropWhile_append_mark (rest : List Char) : (cs ++ mark :: rest).dropWhile (· != mark) = mark :: rest := by
  rw [List.dropWhile_append_of_pos (bne_of_notMem h), List.dropWhile_cons_of_neg (by simp)]

/-- What stands behind the last of a mark is found from the back. -/
theorem takeWhile_reverse_append (before : List Char) :
    (before ++ mark :: cs).reverse.takeWhile (· != mark) = cs.reverse := by
  have hrev : (before ++ mark :: cs).reverse = cs.reverse ++ mark :: before.reverse := by simp
  have hnone : mark ∉ cs.reverse := by rwa [List.mem_reverse]
  rw [hrev, takeWhile_append_mark hnone]

end Mark

section Stop

variable {p : Char → Bool} {front rest : List Char} (hfront : ∀ c ∈ front, p c = true)
  (hrest : ∀ c ∈ rest.head?, p c = false)
include hfront hrest

end Stop

theorem intercalate_cons (mark : Char) (part : List Char) (parts : List (List Char)) :
    [mark].intercalate (part :: parts) = part ++ parts.flatMap (mark :: ·) := by
  induction parts generalizing part with
  | nil => rw [List.intercalate_singleton, List.flatMap_nil, List.append_nil]
  | cons next parts ih =>
    rw [List.intercalate_cons_cons, ih, List.flatMap_cons, List.append_assoc]
    rfl

theorem eq_intercalate_of_splitOn {mark : Char} {cs : List Char} {parts : List (List Char)} (h : cs.splitOn mark = parts) :
    cs = [mark].intercalate parts := by
  rw [← h]
  exact (List.intercalate_splitOn mark).symm

theorem mem_intercalate {mark c : Char} {parts : List (List Char)} (h : c ∈ [mark].intercalate parts) :
    c = mark ∨ ∃ part ∈ parts, c ∈ part := by
  cases parts with
  | nil => cases h
  | cons part parts =>
    rw [intercalate_cons, List.mem_append, List.mem_flatMap] at h
    rcases h with h | ⟨next, hnext, h⟩
    · exact .inr ⟨part, List.mem_cons_self, h⟩
    · rcases List.mem_cons.1 h with rfl | h
      · exact .inl rfl
      · exact .inr ⟨next, List.mem_cons_of_mem _ hnext, h⟩

/-! ## Digits and dots -/

/-- A base64 digit or a dot. -/
def isDigitOrDot (c : Char) : Bool := Base64Url.isDigit c || c == '.'

theorem toNat_of_isDigitOrDot {c : Char} (h : isDigitOrDot c = true) :
    45 ≤ c.toNat ∧ c.toNat ≤ 122 ∧ c.toNat ≠ 59 := by
  rw [isDigitOrDot, Bool.or_eq_true, beq_iff_eq] at h
  rcases h with hdigit | rfl
  · exact Base64Url.toNat_of_isDigit hdigit
  · decide

theorem notMem_of_isDigitOrDot {mark : Char} (hmark : isDigitOrDot mark = false) {cs : List Char}
    (h : ∀ c ∈ cs, isDigitOrDot c = true) : mark ∉ cs := by
  intro hc
  rw [h mark hc] at hmark
  cases hmark

theorem isBlank_of_isDigitOrDot {c : Char} (h : isDigitOrDot c = true) : isBlank c = false := by
  obtain ⟨hlo, hhi, -⟩ := toNat_of_isDigitOrDot h
  exact isBlank_eq_false (by omega) (by omega)

end Gatehouse.Text
