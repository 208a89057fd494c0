/-
Which token a request carries. The last pair with the name of the session cookie decides, whatever stands before
it and wherever pairs are broken; only if there is none, or what it says is blank, the first authorization is looked
at. A token that is found is trimmed and not empty.
-/
import Gatehouse.Proofs.Http.Cookie
import Mathlib.Tactic.SplitIfs

namespace Gatehouse.Http

open Gatehouse.Text

/-! ## Cookies -/

/-- The pair has an equals sign, a name in front of the first one and a value behind it: each of them is what its side
says without the blanks around it when the escapes are decoded, and the name's side is not blank. -/
def IsPair (pair : List Char) (name value : String) : Prop :=
  ∃ left right, pair = left ++ '=' :: right ∧ '=' ∉ left ∧ strip left ≠ [] ∧
    Percent.decodeText? (strip left) = some name ∧ Percent.decodeText? (strip right) = some value

theorem cookiePair?_eq_some_iff {pair : List Char} {name value : String} :
    cookiePair? pair = some (name, value) ↔ IsPair pair name value := by
  constructor
  · intro h
    have hpair : pair = pair.takeWhile (· != '=') ++ pair.dropWhile (· != '=') := List.takeWhile_append_dropWhile.symm
    have hleft : '=' ∉ pair.takeWhile (· != '=') := fun hmem => by
      have := List.mem_takeWhile_imp hmem
      simp at this
    unfold cookiePair? at h
    split at h
    · cases h
    · rename_i mark right hdrop
      have hmark : mark = '=' := by
        have hhead := List.head?_dropWhile_not (· != '=') pair
        rw [hdrop] at hhead
        simpa using hhead
      simp only at h
      split_ifs at h with hempty
      obtain ⟨name, hname, h⟩ := Option.bind_eq_some_iff.1 h
      obtain ⟨value, hvalue, h⟩ := Option.bind_eq_some_iff.1 h
      cases h
      rw [hdrop, hmark] at hpair
      exact ⟨_, right, hpair, hleft, by simpa using hempty, hname, hvalue⟩
  · rintro ⟨left, right, rfl, hleft, hne, hname, hvalue⟩
    rw [cookiePair?, dropWhile_append_mark hleft, takeWhile_append_mark hleft]
    simp [hne, hname, hvalue]

/-- The value stands in the last pair that can be read and has the name, on all cookie lines that count as text. -/
def IsLastCookie (name value : String) (headers : List Header) : Prop :=
  ∃ before pair after, (headersNamed "cookie" headers).flatMap pairsOf = before ++ pair :: after ∧
    IsPair pair name value ∧ ∀ other ∈ after, ∀ text, ¬ IsPair other name text

theorem cookieNamed?_eq_some_iff_isLastCookie {name value : String} {headers : List Header} :
    cookieNamed? name headers = some value ↔ IsLastCookie name value headers := by
  simp only [cookieNamed?_eq_some_iff, ne_eq, cookiePair?_eq_some_iff]
  rfl

/-- The session cookie holds the token, which is what it says without the blanks around it. -/
def HoldsToken (headers : List Header) (token : String) : Prop :=
  ∃ value, IsLastCookie "dashgate.session" value headers ∧ isBlankText value = false ∧ trim value = token

theorem bind_cookieNamed?_eq_some_iff {headers : List Header} {token : String} :
    (cookieNamed? sessionCookieName headers).bind nonBlank? = some token ↔ HoldsToken headers token := by
  simp only [Option.bind_eq_some_iff, cookieNamed?_eq_some_iff_isLastCookie, nonBlank?_eq_some_iff]
  rfl

/-! ## Authorizations -/

/-- The first authorization counts as text and bears the token: the word `Bearer` with a blank behind it, and then the
token with any blanks around it. -/
def BearsToken (headers : List Header) (token : String) : Prop :=
  ∃ line later remainder, headersNamed "authorization" headers = line :: later ∧ line.value.all isPrintable = true ∧
    asciiOf line.value = "Bearer " ++ remainder ∧ isBlankText remainder = false ∧ trim remainder = token

theorem headerText?_eq_some_iff {value : List UInt8} {text : String} :
    headerText? value = some text ↔ value.all isPrintable = true ∧ asciiOf value = text := by
  unfold headerText?
  split_ifs with h <;> simp [h]

/-- A text begins with the mark exactly if something follows the mark in it, and that is what is left without it. -/
theorem isPrefixOf_bearerMark_iff {text : String} :
    bearerMark.isPrefixOf text.toList = true ↔
      text = "Bearer " ++ String.ofList (text.toList.drop bearerMark.length) := by
  rw [List.isPrefixOf_iff_prefix, List.prefix_iff_eq_append, ← String.toList_inj, String.toList_append]
  show _ ↔ text.toList = bearerMark ++ (String.ofList _).toList
  rw [String.toList_ofList]
  exact eq_comm

theorem bearerToken?_eq_some_iff {headers : List Header} {token : String} :
    bearerToken? headers = some token ↔ BearsToken headers token := by
  unfold bearerToken?
  constructor
  · intro h
    obtain ⟨line, hline, h⟩ := Option.bind_eq_some_iff.1 h
    obtain ⟨text, htext, h⟩ := Option.bind_eq_some_iff.1 h
    obtain ⟨later, hlines⟩ := List.head?_eq_some_iff.1 hline
    obtain ⟨hprintable, rfl⟩ := headerText?_eq_some_iff.1 htext
    split_ifs at h with hmark
    exact ⟨line, later, _, hlines, hprintable, isPrefixOf_bearerMark_iff.1 hmark, nonBlank?_eq_some_iff.1 h⟩
  · rintro ⟨line, later, remainder, hlines, hprintable, htext, hpresent⟩
    have hdrop : String.ofList ((asciiOf line.value).toList.drop bearerMark.length) = remainder := by
      rw [htext, String.toList_append, List.drop_left' (show "Bearer ".toList.length = bearerMark.length from rfl),
        String.ofList_toList]
    have hmark : bearerMark.isPrefixOf (asciiOf line.value).toList = true := by
      rw [isPrefixOf_bearerMark_iff, hdrop]
      exact htext
    rw [hlines, List.head?_cons, Option.bind_eq_bind, Option.bind_some,
      headerText?_eq_some_iff.2 ⟨hprintable, rfl⟩, Option.bind_eq_bind, Option.bind_some, if_pos hmark, hdrop]
    exact nonBlank?_eq_some_iff.2 hpresent

/-! ## The session token -/

/-- `sessionToken?` gives `token` exactly if the last session cookie holds it (`HoldsToken`), or if no token is held
and the first `Authorization` field bears it (`BearsToken`). Every token that it gives `IsTrimmed`. -/
theorem session_token_exact (headers : List Header) :
    (∀ token, sessionToken? headers = some token ↔
      HoldsToken headers token ∨ (∀ other, ¬ HoldsToken headers other) ∧ BearsToken headers token) ∧
    ∀ token, sessionToken? headers = some token → IsTrimmed token := by
  have hexact : ∀ token, sessionToken? headers = some token ↔
      HoldsToken headers token ∨ (∀ other, ¬ HoldsToken headers other) ∧ BearsToken headers token := by
    intro token
    simp only [← bind_cookieNamed?_eq_some_iff, ← bearerToken?_eq_some_iff]
    unfold sessionToken?
    cases (cookieNamed? sessionCookieName headers).bind nonBlank? with
    | none => simp
    | some held => simp
  refine ⟨hexact, fun token htoken => ?_⟩
  rcases (hexact token).1 htoken with ⟨value, -, hpresent, rfl⟩ | ⟨-, line, later, remainder, -, -, -, hpresent, rfl⟩
  · exact isTrimmed_trim hpresent
  · exact isTrimmed_trim hpresent

-- a blank cookie hides the earlier one with its name, but not the authorization
example : sessionToken? [⟨"cookie", bytesOf "dashgate.session=a; =b; dashgate.session=%20"⟩,
    ⟨"authorization", bytesOf "Bearer c "⟩] = some "c" := by decide +kernel

end Gatehouse.Http
