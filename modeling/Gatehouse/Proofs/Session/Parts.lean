/-
The parts of a token. A text is cut at the last of a mark in one way only, so a token that was put
together from parts without dots is taken apart into them again.
-/
import Gatehouse.Proofs.Text.Plain
import Gatehouse.Session.Token
import Mathlib.Data.List.TakeWhile

namespace Gatehouse.Session

open Gatehouse.Text

/-! ## Cutting at the last of a mark -/

theorem splitLast?_append {mark : Char} (before : List Char) {after : List Char} (h : mark ∉ after) :
    splitLast? mark (before ++ mark :: after) = some (before, after) := by
  have hlen : (before ++ mark :: after).length - after.length - 1 = before.length := by
    simp only [List.length_append, List.length_cons]; omega
  simp only [splitLast?, takeWhile_reverse_append h before, List.reverse_reverse, hlen]
  rw [if_neg (by simp only [List.length_append, List.length_cons]; omega), List.take_left]

theorem eq_append_last_of_mem {mark : Char} {cs : List Char} (h : mark ∈ cs) :
    ∃ before after, cs = before ++ mark :: after ∧ mark ∉ after := by
  obtain ⟨a, b, hab, ha⟩ := List.eq_append_cons_of_mem (List.mem_reverse.2 h)
  refine ⟨b.reverse, a.reverse, ?_, by rwa [List.mem_reverse]⟩
  rw [← List.reverse_reverse cs, hab]
  simp

theorem splitLast?_of_notMem {mark : Char} {cs : List Char} (h : mark ∉ cs) : splitLast? mark cs = none := by
  have hall : cs.reverse.takeWhile (· != mark) = cs.reverse := by
    rw [List.takeWhile_eq_self_iff]
    intro c hc
    simp only [bne_iff_ne, ne_eq]
    rintro rfl
    exact h (List.mem_reverse.1 hc)
  simp only [splitLast?, hall, List.reverse_reverse, if_true]

theorem eq_of_splitLast? {mark : Char} {cs before after : List Char}
    (h : splitLast? mark cs = some (before, after)) : cs = before ++ mark :: after ∧ mark ∉ after := by
  -- with the mark in it the text has the form that cutting is known for, and else it is not cut
  by_cases hm : mark ∈ cs
  · obtain ⟨b, a, rfl, ha⟩ := eq_append_last_of_mem hm
    rw [splitLast?_append b ha] at h
    cases h
    exact ⟨rfl, ha⟩
  · rw [splitLast?_of_notMem hm] at h; cases h

/-! ## Tokens -/

theorem dot_notMem_encode (bs : List UInt8) : '.' ∉ Base64Url.encode bs := by
  intro h
  exact absurd (Base64Url.isDigit_of_mem_encode h) (by decide)

theorem dot_notMem_sign (secret : SigningSecret) (message : List Char) : '.' ∉ secret.sign message :=
  dot_notMem_encode _

theorem parts_of?_append (header : List Char) {payload signature : List Char} (hp : '.' ∉ payload)
    (hs : '.' ∉ signature) :
    TokenParts.of? ((header ++ '.' :: payload) ++ '.' :: signature) = some ⟨header, payload, signature⟩ := by
  rw [TokenParts.of?, splitLast?_append _ hs, Option.bind_eq_bind, Option.bind_some]
  simp only [splitLast?_append _ hp, Option.bind_some]
  rfl

theorem eq_of_parts_of? {token : List Char} {parts : TokenParts} (h : TokenParts.of? token = some parts) :
    token = parts.message ++ '.' :: parts.signature ∧ '.' ∉ parts.payload ∧ '.' ∉ parts.signature := by
  rw [TokenParts.of?, Option.bind_eq_bind, Option.bind_eq_some_iff] at h
  obtain ⟨⟨message, signature⟩, h1, h⟩ := h
  obtain ⟨⟨header, payload⟩, h2, h⟩ := Option.bind_eq_some_iff.1 h
  cases h
  obtain ⟨rfl, hs⟩ := eq_of_splitLast? h1
  obtain ⟨rfl, hp⟩ := eq_of_splitLast? h2
  exact ⟨rfl, hp, hs⟩

theorem isBlankText_of_parts {token : String} {parts : TokenParts} (h : TokenParts.of? token.toList = some parts) :
    isBlankText token = false := by
  obtain ⟨htoken, -, -⟩ := eq_of_parts_of? h
  unfold isBlankText
  rw [htoken, List.all_append, List.all_cons, show isBlank '.' = false from rfl]
  simp

end Gatehouse.Session
