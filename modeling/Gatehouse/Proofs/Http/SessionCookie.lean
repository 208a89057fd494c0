/-
The session cookie among others. Every token can be handed out in a `Set-Cookie` value, and the pair at
its front brings the token back from whatever cookies and authorizations it is sent with.
-/
import Gatehouse.Proofs.Http.Client

namespace Gatehouse.Http

open Gatehouse.Text

theorem takeWhile_setCookie {token : String} (h : ';' ∉ token.toList) (secure : Bool) (seconds : Int) :
    (setCookie token secure seconds).toList.takeWhile (· != ';') = cookieLine token.toList := by
  obtain ⟨rest, hrest⟩ : ∃ rest, (setCookie token secure seconds).toList = cookieLine token.toList ++ ';' :: rest := by
    rw [toList_setCookie, cookieAttributes, List.cons_append, List.intercalate_cons_cons, List.append_assoc]
    exact ⟨_, rfl⟩
  rw [hrest, takeWhile_append_mark (notMem_cookieLine h)]

/-- `SessionCookie.issue` accepts every token that is not empty and made of `isDigitOrDot` characters, with any
lifetime, secure or not. `sessionToken?` gives that token for all headers with a `Cookie` line that is printable and
has, but for blanks, the `Set-Cookie` value up to its first semicolon among its pairs, whatever stands before, if no
pair behind it, on its line or on later ones, has the name `dashgate.session`. -/
theorem issued_cookie_comes_back (cookie : SessionCookie) {token : String} (hne : token ≠ "")
    (htoken : ∀ c ∈ token.toList, isDigitOrDot c = true) :
    ∃ value, cookie.issue token = .ok value ∧
      ∀ (headers before after : List Header) (line : Header) (left right : List (List Char)) (pair : List Char),
        headersNamed "cookie" headers = before ++ line :: after →
        line.value.all isPrintable = true →
        (asciiOf line.value).toList.splitOn ';' = left ++ pair :: right →
        strip pair = value.toList.takeWhile (· != ';') →
        (∀ other ∈ right ++ after.flatMap pairsOf, pairName? other ≠ some "dashgate.session") →
        sessionToken? headers = some token := by
  refine ⟨_, issue_eq_ok cookie htoken,
    fun headers before after line left right pair hlines hline hsplit hpair hothers => ?_⟩
  have hmark : ';' ∉ token.toList := notMem_of_isDigitOrDot (by decide) htoken
  rw [takeWhile_setCookie hmark] at hpair
  have hread : cookiePair? pair = some (sessionCookieName, token) := by
    have hspelled : cookiePair? pair = cookiePair? (cookieLine token.toList) := cookiePair?_of_strip (by decide) hpair
    rw [hspelled, cookiePair?_cookieLine htoken, String.ofList_toList]
  have hpairs : (headersNamed "cookie" headers).flatMap pairsOf =
      (before.flatMap pairsOf ++ left) ++ pair :: (right ++ after.flatMap pairsOf) := by
    rw [hlines, List.flatMap_append, List.flatMap_cons, pairsOf_of_isPrintable hline, hsplit]
    simp only [List.append_assoc, List.cons_append]
  exact sessionToken?_of_cookieNamed? hne (fun c hc => isBlank_of_isDigitOrDot (htoken c hc))
    (cookieNamed?_of_pairs hpairs hread hothers)

/-- The token comes back from between an earlier cookie of its own name, pairs without `=`, without a name and with a
broken escape, a line that is not printable, and a bearer of another token. -/
theorem issued_cookie_comes_back_from_crowd :
    sessionToken?
      [⟨"Authorization", bytesOf "Bearer other"⟩,
        ⟨"Cookie", bytesOf "dashgate.session=old"⟩,
        ⟨"COOKIE", bytesOf "theme=dark;=1;dashgate.session;\tdashgate.session=a-b.c_d.e ;lang=%ff; x"⟩,
        ⟨"cookie", bytesOf "dashgate.session=ü"⟩] = some "a-b.c_d.e" := by
  obtain ⟨value, hissue, hback⟩ := issued_cookie_comes_back ⟨⟨-1⟩, true⟩ (show "a-b.c_d.e" ≠ "" by decide)
    (List.all_eq_true.1 (by decide))
  refine hback _ [⟨"Cookie", bytesOf "dashgate.session=old"⟩] [⟨"cookie", bytesOf "dashgate.session=ü"⟩]
    ⟨"COOKIE", bytesOf "theme=dark;=1;dashgate.session;\tdashgate.session=a-b.c_d.e ;lang=%ff; x"⟩
    ["theme=dark".toList, "=1".toList, "dashgate.session".toList] ["lang=%ff".toList, " x".toList]
    "\tdashgate.session=a-b.c_d.e ".toList (by decide +kernel) (by decide +kernel) (by decide +kernel) ?_
    (by decide +kernel)
  rw [eq_of_issue hissue]
  decide +kernel

end Gatehouse.Http
