/-
What patterns mean. A pattern has a language: the texts of one allowed character, of one text after
another, or of so many texts in a row. Matching leaves exactly the rests behind the texts of the
language, so a pattern fits the texts of its language and no others.
-/
import Gatehouse.Text.Pattern
import Mathlib.Algebra.BigOperators.Group.List.Basic
import Mathlib.Computability.Language

namespace Gatehouse.Text.Pattern

/-! ## Languages -/

/-- The texts that a pattern is meant for. -/
def language : Pattern → Language Char
  | .one allowed => {cs | ∃ c, allowed c = true ∧ cs = [c]}
  | .seq first second => first.language * second.language
  | .times least more pattern => {cs | ∃ k, (∀ m ∈ more, k ≤ m) ∧ cs ∈ pattern.language ^ (least + k)}

theorem mem_language_one {allowed : Char → Bool} {cs : List Char} :
    cs ∈ (one allowed).language ↔ ∃ c, allowed c = true ∧ cs = [c] :=
  Iff.rfl

theorem mem_language_seq {p q : Pattern} {cs : List Char} :
    cs ∈ (seq p q).language ↔ ∃ a ∈ p.language, ∃ b ∈ q.language, a ++ b = cs :=
  Language.mem_mul

theorem mem_language_times {least : Nat} {more : Option Nat} {p : Pattern} {cs : List Char} :
    cs ∈ (times least more p).language ↔ ∃ k, (∀ m ∈ more, k ≤ m) ∧ cs ∈ p.language ^ (least + k) :=
  Iff.rfl

theorem mem_language_char {c : Char} {cs : List Char} : cs ∈ (char c).language ↔ cs = [c] := by
  unfold char
  rw [mem_language_one]
  constructor
  · rintro ⟨d, hd, rfl⟩
    rw [eq_of_beq hd]
  · rintro rfl
    exact ⟨c, beq_self_eq_true c, rfl⟩

theorem mem_language_optional {p : Pattern} {cs : List Char} :
    cs ∈ p.optional.language ↔ cs = [] ∨ cs ∈ p.language := by
  unfold optional
  rw [mem_language_times]
  constructor
  · rintro ⟨k, hk, hcs⟩
    rcases Nat.le_one_iff_eq_zero_or_eq_one.1 (hk 1 rfl) with rfl | rfl
    · exact .inl hcs
    · right
      rwa [Nat.zero_add, pow_one] at hcs
  · rintro (rfl | hcs)
    · exact ⟨0, by simp, Language.nil_mem_one⟩
    · refine ⟨1, by simp, ?_⟩
      rwa [Nat.zero_add, pow_one]

theorem mem_language_many {p : Pattern} {cs : List Char} :
    cs ∈ p.many.language ↔ ∃ parts : List (List Char), cs = parts.flatten ∧ ∀ part ∈ parts, part ∈ p.language := by
  unfold many
  rw [mem_language_times]
  constructor
  · rintro ⟨k, -, hcs⟩
    obtain ⟨parts, hparts, -, hmem⟩ := Language.mem_pow.1 hcs
    exact ⟨parts, hparts, hmem⟩
  · rintro ⟨parts, hparts, hmem⟩
    exact ⟨parts.length, by simp, Language.mem_pow.2 ⟨parts, hparts, (Nat.zero_add _).symm, hmem⟩⟩

theorem mem_pow_one {allowed : Char → Bool} {n : Nat} {cs : List Char} :
    cs ∈ (one allowed).language ^ n ↔ cs.length = n ∧ ∀ c ∈ cs, allowed c = true := by
  induction n generalizing cs with
  | zero =>
    rw [pow_zero, Language.mem_one, List.length_eq_zero_iff]
    constructor
    · rintro rfl
      simp
    · exact fun h => h.1
  | succ n ih =>
    rw [pow_succ', Language.mem_mul]
    constructor
    · rintro ⟨a, ⟨c, hc, rfl⟩, b, hb, rfl⟩
      obtain ⟨hlen, hall⟩ := ih.1 hb
      simpa [hlen, hc] using hall
    · rintro ⟨hlen, hall⟩
      cases cs with
      | nil => cases hlen
      | cons c cs =>
        refine ⟨[c], ⟨c, hall c (by simp), rfl⟩, cs, ih.2 ⟨by simpa using hlen, ?_⟩, rfl⟩
        exact fun d hd => hall d (List.mem_cons_of_mem _ hd)

theorem mem_language_times_one {least : Nat} {more : Option Nat} {allowed : Char → Bool} {cs : List Char} :
    cs ∈ (times least more (one allowed)).language ↔
      least ≤ cs.length ∧ (∀ m ∈ more, cs.length ≤ least + m) ∧ ∀ c ∈ cs, allowed c = true := by
  rw [mem_language_times]
  constructor
  · rintro ⟨k, hk, hcs⟩
    obtain ⟨hlen, hall⟩ := mem_pow_one.1 hcs
    refine ⟨by omega, fun m hm => ?_, hall⟩
    have := hk m hm
    omega
  · rintro ⟨hleast, hmore, hall⟩
    refine ⟨cs.length - least, fun m hm => ?_, mem_pow_one.2 ⟨by omega, hall⟩⟩
    have := hmore m hm
    omega

/-! ## Matching -/

section Steps

variable {step : List Char → List (List Char)} {l : Language Char}

/-- What a step leaves of a text are the rests behind the texts of a language. -/
def Leaves (step : List Char → List (List Char)) (l : Language Char) : Prop :=
  ∀ cs rest, rest ∈ step cs ↔ ∃ front ∈ l, cs = front ++ rest

theorem Leaves.flatMap {step' : List Char → List (List Char)} {l' : Language Char} (h : Leaves step l)
    (h' : Leaves step' l') : Leaves (fun cs => (step cs).flatMap step') (l * l') := by
  intro cs rest
  simp only [List.mem_flatMap]
  constructor
  · rintro ⟨middle, hmiddle, hrest⟩
    obtain ⟨a, ha, rfl⟩ := (h cs middle).1 hmiddle
    obtain ⟨b, hb, rfl⟩ := (h' middle rest).1 hrest
    exact ⟨a ++ b, Language.append_mem_mul ha hb, (List.append_assoc ..).symm⟩
  · rintro ⟨front, hfront, rfl⟩
    obtain ⟨a, ha, b, hb, rfl⟩ := Language.mem_mul.1 hfront
    exact ⟨b ++ rest, (h _ _).2 ⟨a, ha, List.append_assoc ..⟩, (h' _ _).2 ⟨b, hb, rfl⟩⟩

theorem leaves_one : Leaves (fun cs => [cs]) 1 := by
  intro cs rest
  constructor
  · intro hrest
    exact ⟨[], Language.nil_mem_one, (List.mem_singleton.1 hrest).symm⟩
  · rintro ⟨front, rfl, rfl⟩
    exact List.mem_singleton_self _

theorem Leaves.exactly (h : Leaves step l) (n : Nat) : Leaves (exactly step n) (l ^ n) := by
  induction n with
  | zero => exact leaves_one
  | succ n ih =>
    rw [pow_succ']
    exact h.flatMap ih

theorem Leaves.mem_upTo (h : Leaves step l) (n : Nat) (cs rest : List Char) :
    rest ∈ upTo step n cs ↔ ∃ k ≤ n, ∃ front ∈ l ^ k, cs = front ++ rest := by
  induction n generalizing cs with
  | zero =>
    rw [upTo, leaves_one cs rest]
    constructor
    · rintro ⟨front, hfront, hcs⟩
      exact ⟨0, Nat.le_refl 0, front, hfront, hcs⟩
    · rintro ⟨k, hk, front, hfront, hcs⟩
      obtain rfl := Nat.le_zero.1 hk
      exact ⟨front, hfront, hcs⟩
  | succ n ih =>
    rw [upTo, List.mem_cons, List.mem_flatMap]
    constructor
    · rintro (rfl | ⟨middle, hmiddle, hrest⟩)
      · exact ⟨0, Nat.zero_le _, [], Language.nil_mem_one, rfl⟩
      · obtain ⟨a, ha, rfl⟩ := (h cs middle).1 hmiddle
        obtain ⟨k, hk, b, hb, rfl⟩ := (ih middle).1 hrest
        refine ⟨k + 1, Nat.succ_le_succ hk, a ++ b, ?_, (List.append_assoc ..).symm⟩
        rw [pow_succ']
        exact Language.append_mem_mul ha hb
    · rintro ⟨k, hk, front, hfront, rfl⟩
      cases k with
      | zero =>
        obtain rfl : front = [] := hfront
        exact .inl rfl
      | succ k =>
        rw [pow_succ'] at hfront
        obtain ⟨a, ha, b, hb, rfl⟩ := Language.mem_mul.1 hfront
        refine .inr ⟨b ++ rest, (h _ _).2 ⟨a, ha, List.append_assoc ..⟩, (ih _).2 ?_⟩
        exact ⟨k, Nat.le_of_succ_le_succ hk, b, hb, rfl⟩

theorem length_le_length_flatten {parts : List (List Char)} (h : ∀ part ∈ parts, part ≠ []) :
    parts.length ≤ parts.flatten.length := by
  have hsum : (parts.map List.length).length ≤ (parts.map List.length).sum := by
    apply List.length_le_sum_of_one_le
    intro n hn
    obtain ⟨part, hpart, rfl⟩ := List.mem_map.1 hn
    exact List.length_pos_iff.2 (h part hpart)
  rwa [List.length_map, ← List.length_flatten] at hsum

/-- Repetitions that are empty can be left out, and there are no more of the others than characters. -/
theorem exists_pow_le_length {k : Nat} {cs : List Char} (h : cs ∈ l ^ k) : ∃ n ≤ cs.length, cs ∈ l ^ n := by
  obtain ⟨parts, rfl, -, hmem⟩ := Language.mem_pow.1 h
  have hflatten : (parts.filter fun part => !part.isEmpty).flatten = parts.flatten :=
    List.flatten_filter_not_isEmpty
  refine ⟨(parts.filter fun part => !part.isEmpty).length, ?_, Language.mem_pow.2 ⟨_, hflatten.symm, rfl, ?_⟩⟩
  · rw [← hflatten]
    apply length_le_length_flatten
    intro part hpart
    simpa using (List.mem_filter.1 hpart).2
  · exact fun part hpart => hmem part (List.mem_filter.1 hpart).1

end Steps

/-- `Pattern.rests` gives the rests behind the texts of `Pattern.language`. -/
theorem leaves_rests (p : Pattern) : Leaves p.rests p.language := by
  induction p with
  | one allowed =>
    intro cs rest
    cases cs with
    | nil =>
      simp only [rests, List.not_mem_nil, false_iff]
      rintro ⟨front, ⟨c, -, rfl⟩, h⟩
      cases h
    | cons c cs =>
      rw [rests]
      split_ifs with hc
      · rw [List.mem_singleton]
        constructor
        · rintro rfl
          exact ⟨[c], ⟨c, hc, rfl⟩, rfl⟩
        · rintro ⟨front, ⟨d, -, rfl⟩, h⟩
          cases h
          rfl
      · simp only [List.not_mem_nil, false_iff]
        rintro ⟨front, ⟨d, hd, rfl⟩, h⟩
        cases h
        exact hc hd
  | seq first second ih₁ ih₂ => exact ih₁.flatMap ih₂
  | times least more pattern ih =>
    intro cs rest
    rw [rests, List.mem_flatMap]
    constructor
    · rintro ⟨middle, hmiddle, hrest⟩
      obtain ⟨a, ha, rfl⟩ := (ih.exactly least cs middle).1 hmiddle
      obtain ⟨k, hk, b, hb, rfl⟩ := (ih.mem_upTo _ middle rest).1 hrest
      refine ⟨a ++ b, ⟨k, ?_, ?_⟩, (List.append_assoc ..).symm⟩
      · rintro m rfl
        exact hk
      · rw [pow_add]
        exact Language.append_mem_mul ha hb
    · rintro ⟨front, ⟨k, hk, hfront⟩, rfl⟩
      rw [pow_add] at hfront
      obtain ⟨a, ha, b, hb, rfl⟩ := Language.mem_mul.1 hfront
      refine ⟨b ++ rest, (ih.exactly least _ _).2 ⟨a, ha, List.append_assoc ..⟩, (ih.mem_upTo _ _ rest).2 ?_⟩
      cases more with
      | some m => exact ⟨k, hk m rfl, b, hb, rfl⟩
      | none =>
        -- any number of repetitions was meant, but only as many as there are characters were tried
        obtain ⟨n, hn, hb⟩ := exists_pow_le_length hb
        refine ⟨n, ?_, b, hb, rfl⟩
        rw [Option.getD_none, List.length_append]
        omega

theorem fits_iff {p : Pattern} {cs : List Char} : p.fits cs = true ↔ cs ∈ p.language := by
  unfold fits
  rw [List.any_eq_true]
  constructor
  · rintro ⟨rest, hrest, hempty⟩
    obtain rfl := List.isEmpty_iff.1 hempty
    obtain ⟨front, hfront, rfl⟩ := (leaves_rests p cs []).1 hrest
    rwa [List.append_nil]
  · intro h
    exact ⟨[], (leaves_rests p cs []).2 ⟨cs, h, (List.append_nil cs).symm⟩, rfl⟩

end Gatehouse.Text.Pattern
