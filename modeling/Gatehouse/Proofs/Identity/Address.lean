/-
The grammar of email addresses without its pattern: a text is cut at its `@` and its domain at every
dot, and each label is looked at by itself. The last label could also be matched as one of those before
it, but the letters behind the last dot settle which it is. Reading a text that was read changes nothing.
-/
import Gatehouse.Proofs.Identity.Email
import Gatehouse.Proofs.Text.Blank
import Gatehouse.Proofs.Text.Pattern
import Gatehouse.Proofs.Text.Plain

namespace Gatehouse.Identity

open Gatehouse.Text

/-! ## Labels -/

/-- A label of a domain: 1 to 63 letters, digits and hyphens, without a hyphen at either end. -/
structure IsLabel (label : List Char) : Prop where
  length_pos : 1 ≤ label.length
  length_le : label.length ≤ 63
  chars : ∀ c ∈ label, c.isAlphanum = true ∨ c = '-'
  head : label.head? ≠ some '-'
  last : label.getLast? ≠ some '-'

/-- The last label of a domain: two letters or more. -/
structure IsTopLabel (label : List Char) : Prop where
  length_le : 2 ≤ label.length
  letters : ∀ c ∈ label, c.isAlpha = true

theorem ne_hyphen_of_isAlphanum {c : Char} (h : c.isAlphanum = true) : c ≠ '-' := by
  rintro rfl
  exact absurd h (by decide)

theorem isLabel_singleton {c : Char} (h : c.isAlphanum = true) : IsLabel [c] := by
  have hne := ne_hyphen_of_isAlphanum h
  constructor <;> simp [h, hne]

theorem isLabel_enclosed {c d : Char} {middle : List Char} (hc : c.isAlphanum = true) (hd : d.isAlphanum = true)
    (hlen : middle.length ≤ 61) (hmiddle : ∀ m ∈ middle, m.isAlphanum = true ∨ m = '-') :
    IsLabel (c :: (middle ++ [d])) := by
  constructor
  · simp
  · simp only [List.length_cons, List.length_append, List.length_nil]
    omega
  · intro m hm
    simp only [List.mem_cons, List.mem_append, List.not_mem_nil, or_false] at hm
    rcases hm with rfl | hm | rfl
    · exact .inl hc
    · exact hmiddle m hm
    · exact .inl hd
  · simpa using ne_hyphen_of_isAlphanum hc
  · rw [← List.cons_append, List.getLast?_concat]
    simpa using ne_hyphen_of_isAlphanum hd

theorem mem_language_label {label : List Char} : label ∈ labelPattern.language ↔ IsLabel label := by
  unfold labelPattern
  rw [Pattern.mem_language_seq]
  simp only [Pattern.mem_language_one, Pattern.mem_language_optional, Pattern.mem_language_seq,
    Pattern.mem_language_times_one]
  constructor
  · rintro ⟨_, ⟨c, hc, rfl⟩, rest, hrest, rfl⟩
    rcases hrest with rfl | ⟨middle, ⟨-, hlen, hmiddle⟩, _, ⟨d, hd, rfl⟩, rfl⟩
    · exact isLabel_singleton hc
    · refine isLabel_enclosed hc hd ?_ ?_
      · simpa using hlen 61 rfl
      · intro m hm
        simpa using hmiddle m hm
  · intro h
    obtain ⟨c, rest, rfl⟩ := List.exists_cons_of_length_pos h.length_pos
    have hc : c.isAlphanum = true := (h.chars c (by simp)).resolve_right (by simpa using h.head)
    refine ⟨[c], ⟨c, hc, rfl⟩, rest, ?_, rfl⟩
    -- what follows the first character is nothing, or has a last character
    rcases List.eq_nil_or_concat rest with rfl | ⟨middle, d, rfl⟩
    · exact .inl rfl
    · right
      rw [List.concat_eq_append] at h ⊢
      have hlast : d ≠ '-' := by
        have := h.last
        rw [← List.cons_append, List.getLast?_concat] at this
        simpa using this
      have hlen := h.length_le
      simp only [List.length_cons, List.length_append, List.length_nil] at hlen
      refine ⟨middle, ⟨by simp, ?_, ?_⟩, [d], ⟨d, (h.chars d (by simp)).resolve_right hlast, rfl⟩, rfl⟩
      · rintro m ⟨⟩
        omega
      · intro m hm
        simpa using h.chars m (by simp [hm])

theorem notMem_of_isLabel {mark : Char} (halphanum : mark.isAlphanum = false) (hhyphen : mark ≠ '-') {label : List Char}
    (h : IsLabel label) : mark ∉ label := by
  intro hmark
  rcases h.chars mark hmark with hmark | hmark
  · rw [halphanum] at hmark
    cases hmark
  · exact hhyphen hmark

theorem notMem_of_isTopLabel {mark : Char} (h : mark.isAlpha = false) {label : List Char} (htop : IsTopLabel label) :
    mark ∉ label := by
  intro hmark
  rw [htop.letters mark hmark] at h
  cases h

/-! ## Domains -/

/-- A domain: two labels or more between dots, the last of them one of letters. -/
def IsDomain (domain : List Char) : Prop :=
  ∃ labels top, domain.splitOn '.' = labels ++ [top] ∧ labels ≠ [] ∧ (∀ label ∈ labels, IsLabel label) ∧ IsTopLabel top

/-- Texts that each follow a mark are the parts that the mark stands before. -/
theorem exists_parts_of_marked {mark : Char} {P : List Char → Prop} {texts : List (List Char)}
    (h : ∀ text ∈ texts, ∃ part, P part ∧ text = mark :: part) :
    ∃ parts : List (List Char), texts.flatten = parts.flatMap (mark :: ·) ∧ ∀ part ∈ parts, P part := by
  induction texts with
  | nil => exact ⟨[], rfl, by simp⟩
  | cons text texts ih =>
    obtain ⟨part, hpart, rfl⟩ := h text List.mem_cons_self
    obtain ⟨parts, hparts, hall⟩ := ih fun t ht => h t (List.mem_cons_of_mem _ ht)
    refine ⟨part :: parts, by rw [List.flatten_cons, hparts, List.flatMap_cons], ?_⟩
    intro p hp
    rcases List.mem_cons.1 hp with rfl | hp
    · exact hpart
    · exact hall p hp

theorem mem_language_marked {mark : Char} {p : Pattern} {cs : List Char} :
    cs ∈ ((Pattern.char mark).seq p).language ↔ ∃ part ∈ p.language, cs = mark :: part := by
  rw [Pattern.mem_language_seq]
  simp only [Pattern.mem_language_char]
  constructor
  · rintro ⟨_, rfl, part, hpart, rfl⟩
    exact ⟨part, hpart, rfl⟩
  · rintro ⟨part, hpart, rfl⟩
    exact ⟨[mark], rfl, part, hpart, rfl⟩

theorem mem_language_top {top : List Char} :
    top ∈ (Pattern.times 2 none (.one Char.isAlpha)).language ↔ IsTopLabel top := by
  rw [Pattern.mem_language_times_one]
  exact ⟨fun h => ⟨h.1, h.2.2⟩, fun h => ⟨h.1, by simp, h.2⟩⟩

theorem splitOn_labels {labels : List (List Char)} {top : List Char} (hlabels : ∀ label ∈ labels, IsLabel label)
    (htop : IsTopLabel top) : (['.'].intercalate (labels ++ [top])).splitOn '.' = labels ++ [top] := by
  apply List.splitOn_intercalate
  · intro label hlabel
    rcases List.mem_append.1 hlabel with hlabel | hlabel
    · exact notMem_of_isLabel (by decide) (by decide) (hlabels label hlabel)
    · rw [List.mem_singleton.1 hlabel]
      exact notMem_of_isTopLabel (by decide) htop
  · simp

theorem mem_language_domain {domain : List Char} : domain ∈ domainPattern.language ↔ IsDomain domain := by
  unfold domainPattern
  rw [Pattern.mem_language_seq]
  simp only [Pattern.mem_language_seq (p := .many _), Pattern.mem_language_many, mem_language_marked, mem_language_top,
    mem_language_label]
  constructor
  · rintro ⟨first, hfirst, _, ⟨_, ⟨texts, rfl, htexts⟩, _, ⟨top, htop, rfl⟩, rfl⟩, rfl⟩
    obtain ⟨others, hothers, hlabels⟩ := exists_parts_of_marked htexts
    have hall : ∀ label ∈ first :: others, IsLabel label := by
      intro label hlabel
      rcases List.mem_cons.1 hlabel with rfl | hlabel
      · exact hfirst
      · exact hlabels label hlabel
    -- no label holds a dot, so the parts that were matched are those that cutting finds
    have hjoin : first ++ (texts.flatten ++ '.' :: top) = ['.'].intercalate (first :: others ++ [top]) := by
      rw [List.cons_append, intercalate_cons, hothers, List.flatMap_append, List.flatMap_singleton]
    refine ⟨first :: others, top, ?_, by simp, hall, htop⟩
    rw [hjoin, splitOn_labels hall htop]
  · rintro ⟨labels, top, hsplit, hne, hall, htop⟩
    obtain ⟨first, others, rfl⟩ := List.exists_cons_of_ne_nil hne
    have hjoin : domain = first ++ ((others.map ('.' :: ·)).flatten ++ '.' :: top) := by
      rw [eq_intercalate_of_splitOn hsplit, List.cons_append, intercalate_cons, List.flatMap_append,
        List.flatMap_singleton, List.flatMap_def]
    refine ⟨first, hall first (by simp), _, ⟨_, ⟨others.map ('.' :: ·), rfl, ?_⟩, _, ⟨top, htop, rfl⟩, rfl⟩, hjoin.symm⟩
    intro text htext
    obtain ⟨label, hlabel, rfl⟩ := List.mem_map.1 htext
    exact ⟨label, hall label (by simp [hlabel]), rfl⟩

/-! ## Addresses -/

/-- A text of the grammar of addresses, cut at its one `@`. -/
def IsMailbox (cs : List Char) : Prop :=
  ∃ localPart domain, cs.splitOn '@' = [localPart, domain] ∧ localPart ≠ [] ∧
    (∀ c ∈ localPart, isLocalChar c = true) ∧ IsDomain domain

theorem at_notMem_of_isDomain {domain : List Char} (h : IsDomain domain) : '@' ∉ domain := by
  obtain ⟨labels, top, hsplit, -, hlabels, htop⟩ := h
  intro hmem
  rw [eq_intercalate_of_splitOn hsplit] at hmem
  rcases mem_intercalate hmem with hdot | ⟨label, hlabel, hmem⟩
  · exact absurd hdot (by decide)
  rcases List.mem_append.1 hlabel with hlabel | hlabel
  · exact notMem_of_isLabel (by decide) (by decide) (hlabels label hlabel) hmem
  · rw [List.mem_singleton.1 hlabel] at hmem
    exact notMem_of_isTopLabel (by decide) htop hmem

theorem isAddress_iff {cs : List Char} : isAddress cs = true ↔ IsMailbox cs := by
  unfold isAddress addressPattern Pattern.many1
  rw [Pattern.fits_iff, Pattern.mem_language_seq]
  simp only [Pattern.mem_language_times_one, mem_language_marked, mem_language_domain]
  constructor
  · rintro ⟨localPart, ⟨hne, -, hlocal⟩, _, ⟨domain, hdomain, rfl⟩, rfl⟩
    refine ⟨localPart, domain, ?_, List.length_pos_iff.1 hne, hlocal, hdomain⟩
    have hjoin : localPart ++ '@' :: domain = ['@'].intercalate [localPart, domain] := by
      rw [intercalate_cons, List.flatMap_singleton]
    rw [hjoin]
    apply List.splitOn_intercalate
    · intro part hpart
      rcases List.mem_pair.1 hpart with rfl | rfl
      · intro hat
        exact absurd (hlocal '@' hat) (by decide)
      · exact at_notMem_of_isDomain hdomain
    · simp
  · rintro ⟨localPart, domain, hsplit, hne, hlocal, hdomain⟩
    refine ⟨localPart, ⟨List.length_pos_iff.2 hne, by simp, hlocal⟩, _, ⟨domain, hdomain, rfl⟩, ?_⟩
    rw [eq_intercalate_of_splitOn hsplit, intercalate_cons, List.flatMap_singleton]

/-! ## Reading -/

theorem parse_cases (raw : String) :
    (trim raw = "" ∧ EmailAddress.parse raw = .error .missing) ∨
    (trim raw ≠ "" ∧ ¬ IsAddress (trim raw) ∧ EmailAddress.parse raw = .error .malformed) ∨
    ∃ h : IsAddress (trim raw), EmailAddress.parse raw = .ok ⟨trim raw, h.isAddress, h.length_le⟩ := by
  by_cases haddress : IsAddress (trim raw)
  · exact .inr (.inr ⟨haddress, parse_of_isAddress haddress⟩)
  unfold EmailAddress.parse
  simp only
  split_ifs with hempty hchecks
  · exact .inl ⟨String.isEmpty_iff.1 hempty, rfl⟩
  · exact absurd ⟨hchecks.2, hchecks.1⟩ haddress
  · refine .inr (.inl ⟨?_, haddress, rfl⟩)
    intro htrim
    exact hempty (String.isEmpty_iff.2 htrim)

/-- `EmailAddress.parse` succeeds exactly if `trim raw` has at most 254 bytes and `IsMailbox`: a local part, an `@`
and a domain of labels. The address is then `trim raw`, and parses to itself. An error says `email is required` if
`trim raw` is empty, and `email is not a valid address` otherwise. `trim raw` is `raw` without blanks at both ends. -/
theorem address_exact (raw : String) :
    (∃ front back, AreBlank front ∧ AreBlank back ∧ raw.toList = front ++ (trim raw).toList ++ back ∧
      HasBareEnds (trim raw).toList) ∧
    ((∃ address, EmailAddress.parse raw = .ok address) ↔
      (trim raw).utf8ByteSize ≤ 254 ∧ IsMailbox (trim raw).toList) ∧
    (∀ address, EmailAddress.parse raw = .ok address →
      address.text = trim raw ∧ EmailAddress.parse address.text = .ok address) ∧
    ∀ e, EmailAddress.parse raw = .error e →
      e.message = if trim raw = "" then "email is required" else "email is not a valid address" := by
  have hstrip : (trim raw).toList = strip raw.toList := String.toList_ofList
  refine ⟨?_, ?_, ?_, ?_⟩
  · obtain ⟨front, back, hfront, hback, hraw⟩ := exists_blanks_around raw.toList
    rw [hstrip]
    exact ⟨front, back, hfront, hback, hraw, hasBareEnds_strip _⟩
  · rw [← isAddress_iff]
    constructor
    · rintro ⟨address, haddress⟩
      have htext := parse_eq_ok_iff.1 haddress
      rw [← htext]
      exact ⟨address.length_le, address.isAddress_text⟩
    · rintro ⟨hlength, hgrammar⟩
      exact ⟨_, parse_of_isAddress ⟨hgrammar, hlength⟩⟩
  · intro address haddress
    have htext := parse_eq_ok_iff.1 haddress
    refine ⟨htext, parse_eq_ok_iff.2 ?_⟩
    rw [htext, trim_trim]
  · intro e he
    rcases parse_cases raw with ⟨hempty, h⟩ | ⟨hempty, -, h⟩ | ⟨_, h⟩ <;> rw [he] at h <;> cases h
    · rw [if_pos hempty]
      rfl
    · rw [if_neg hempty]
      rfl

/-- The longest label that is allowed, and one that is longer by a letter; behind the last dot it is allowed. -/
example :
    isAddress ("a@".toList ++ List.replicate 63 'x' ++ ".io".toList) = true ∧
    isAddress ("a@".toList ++ List.replicate 64 'x' ++ ".io".toList) = false ∧
    isAddress ("a@b.".toList ++ List.replicate 64 'x') = true := by decide +kernel

end Gatehouse.Identity
