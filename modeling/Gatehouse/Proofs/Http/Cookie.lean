/-
Cookie pairs as they are spelled. The lines that count as text are cut at their semicolons, in order; of
the pairs with a name the last one counts, and neither the pairs before it nor those with other names,
broken ones among them, change what it says.
-/
import Gatehouse.Http.Cookie
import Gatehouse.Proofs.Text.Blank
import Gatehouse.Proofs.Text.Plain

namespace Gatehouse.Http

open Gatehouse.Text

/-! ## Pairs -/

/-- The pairs of a line as they are spelled; a line that does not count as text has none. -/
def pairsOf (line : Header) : List (List Char) :=
  match headerText? line.value with
  | none => []
  | some text => text.toList.splitOn ';'

theorem pairsOf_of_isPrintable {line : Header} (h : line.value.all isPrintable = true) :
    pairsOf line = (asciiOf line.value).toList.splitOn ';' := by
  rw [pairsOf, headerText?, if_pos h]

/-- The name that a pair is spelled with, without the blanks around it and decoded; without an equals sign there is
none. -/
def pairName? (pair : List Char) : Option String :=
  if '=' ∈ pair then Percent.decodeText? (strip (pair.takeWhile (· != '='))) else none

theorem cookies_eq (headers : List Header) :
    cookies headers = ((headersNamed "cookie" headers).flatMap pairsOf).filterMap cookiePair? := by
  rw [cookies, List.filterMap_flatMap]
  refine congrArg (fun f => List.flatMap f (headersNamed "cookie" headers)) (funext fun line => ?_)
  unfold pairsOf
  cases headerText? line.value <;> rfl

theorem pairName?_of_cookiePair? {pair : List Char} {cookie : String × String} (h : cookiePair? pair = some cookie) :
    pairName? pair = some cookie.1 := by
  unfold cookiePair? at h
  split at h
  · cases h
  · rename_i mark value hdrop
    have hmem : '=' ∈ pair := by
      by_contra hnone
      rw [dropWhile_of_notMem hnone] at hdrop
      cases hdrop
    simp only at h
    split at h
    · cases h
    · obtain ⟨name, hname, h⟩ := Option.bind_eq_some_iff.1 h
      obtain ⟨text, -, h⟩ := Option.bind_eq_some_iff.1 h
      cases h
      rw [pairName?, if_pos hmem, hname]

/-- `cookieNamed?` gives the value of the last pair that can be read and has the name. -/
theorem cookieNamed?_eq_some_iff {name value : String} {headers : List Header} :
    cookieNamed? name headers = some value ↔
      ∃ left pair right, (headersNamed "cookie" headers).flatMap pairsOf = left ++ pair :: right ∧
        cookiePair? pair = some (name, value) ∧ ∀ other ∈ right, ∀ text, cookiePair? other ≠ some (name, text) := by
  rw [cookieNamed?, cookies_eq]
  generalize (headersNamed "cookie" headers).flatMap pairsOf = pairs
  constructor
  · intro h
    obtain ⟨⟨found, _⟩, hfind, rfl⟩ := Option.map_eq_some_iff.1 h
    obtain ⟨hname, later, earlier, hsplit, hlater⟩ := List.find?_eq_some_iff_append.1 hfind
    obtain rfl : found = name := of_decide_eq_true hname
    rw [List.reverse_eq_append_iff, List.reverse_cons, List.append_assoc, List.singleton_append] at hsplit
    obtain ⟨front, rest, rfl, -, hrest⟩ := List.filterMap_eq_append_iff.1 hsplit
    obtain ⟨broken, pair, right, rfl, -, hpair, hright⟩ := List.filterMap_eq_cons_iff.1 hrest
    refine ⟨front ++ broken, pair, right, (List.append_assoc ..).symm, hpair, fun other hother text hread => ?_⟩
    have hmem : (found, text) ∈ later := by
      rw [← List.mem_reverse, ← hright]
      exact List.mem_filterMap.2 ⟨other, hother, hread⟩
    have hother := hlater _ hmem
    simp at hother
  · rintro ⟨left, pair, right, rfl, hpair, hright⟩
    have hlater : ∀ cookie ∈ (right.filterMap cookiePair?).reverse, ¬ decide (cookie.1 = name) = true := by
      intro cookie hcookie hname
      obtain ⟨other, hother, hread⟩ := List.mem_filterMap.1 (List.mem_reverse.1 hcookie)
      rw [← of_decide_eq_true hname] at hright
      exact hright other hother cookie.2 hread
    rw [List.filterMap_append, List.filterMap_cons_some hpair, List.reverse_append, List.reverse_cons,
      List.append_assoc, List.find?_append, List.find?_eq_none.2 hlater]
    simp

theorem cookieNamed?_of_pairs {name value : String} {headers : List Header} {left right : List (List Char)}
    {pair : List Char} (hpairs : (headersNamed "cookie" headers).flatMap pairsOf = left ++ pair :: right)
    (hpair : cookiePair? pair = some (name, value)) (hright : ∀ other ∈ right, pairName? other ≠ some name) :
    cookieNamed? name headers = some value :=
  cookieNamed?_eq_some_iff.2 ⟨left, pair, right, hpairs, hpair, fun other hother _ hread =>
    hright other hother (pairName?_of_cookiePair? hread)⟩

theorem cookiePair?_of_strip {name pair token : List Char} (hname : '=' ∉ name)
    (hpair : strip pair = name ++ '=' :: token) : cookiePair? pair = cookiePair? (name ++ '=' :: token) := by
  obtain ⟨front, back, hfront, hback, heq⟩ := exists_blanks_around pair
  rw [hpair] at heq
  have hmark : '=' ∉ front ++ name := by
    rw [List.mem_append, not_or]
    refine ⟨fun hmem => ?_, hname⟩
    exact absurd (hfront '=' hmem) (by decide)
  have hspelled : pair = (front ++ name) ++ '=' :: (token ++ back) := by
    rw [heq]
    simp only [List.append_assoc, List.cons_append]
  rw [hspelled, cookiePair?, takeWhile_append_mark hmark, dropWhile_append_mark hmark, cookiePair?,
    takeWhile_append_mark hname, dropWhile_append_mark hname]
  simp only [strip_append_left hfront, strip_append_right _ hback]

/-! ## The session token -/

theorem sessionToken?_of_cookieNamed? {headers : List Header} {token : String} (hne : token ≠ "")
    (hblank : ∀ c ∈ token.toList, isBlank c = false) (h : cookieNamed? sessionCookieName headers = some token) :
    sessionToken? headers = some token := by
  have hpresent : nonBlank? token = some token := by
    rw [nonBlank?, strip_of_forall hblank, String.ofList_toList]
    simp [hne]
  rw [sessionToken?, h, Option.bind_some, hpresent]

end Gatehouse.Http
