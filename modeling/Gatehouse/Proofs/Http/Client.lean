/-
A client that keeps the session cookie and nothing else: what it makes of a `Set-Cookie` field and what
it sends back. A token of digits and dots goes into the slot and comes out of the request unchanged; a
cleared cookie empties the slot.
-/
import Gatehouse.Http.Message
import Gatehouse.Proofs.Http.Cookie
import Mathlib.Data.List.Basic

namespace Gatehouse.Http

open Gatehouse.Text Gatehouse.Time

/-! ## The client -/

/-- The slot for the session cookie, which holds at most one value. -/
abbrev Slot := Option String

/-- The attribute that gives a cookie a lifetime of zero. -/
def isExpiry (cs : List Char) : Bool := strip cs = "Max-Age=0".toList

/-- The slot after a `Set-Cookie` value. A cookie of another name is passed over, and a lifetime of zero empties
the slot. -/
def Slot.accept (slot : Slot) (value : String) : Slot :=
  match value.toList.splitOn ';' with
  | [] => slot
  | pair :: attributes =>
    if pair.takeWhile (· != '=') = sessionCookieName.toList then
      if attributes.any isExpiry then none
      else some (String.ofList ((pair.dropWhile (· != '=')).drop 1))
    else slot

/-- The number of a `Max-Age` attribute. -/
def ageOf? (cs : List Char) : Option Int := ("Max-Age=".toList.isPrefixOf? (strip cs)).bind Integer.integer?

/-- The lifetimes in seconds that a `Set-Cookie` value names. -/
def maxAges (value : String) : List Int := (value.toList.splitOn ';').tail.filterMap ageOf?

/-- The slot after a response. -/
def Slot.receive (slot : Slot) (response : Response) : Slot :=
  response.headers.foldl (fun slot h => if h.1 = "set-cookie" then slot.accept h.2 else slot) slot

/-- The headers of a request that the client sends: the cookie in its slot and no other, and no authorization. -/
def Slot.Sends (slot : Slot) (headers : List Header) : Prop :=
  (headersNamed "cookie" headers).map Header.value =
      (slot.map fun token => bytesOf (sessionCookieName ++ "=" ++ token)).toList ∧
    headersNamed "authorization" headers = []

/-- The headers of a request that carries the slot and nothing else. -/
def Slot.headers (slot : Slot) : List Header :=
  slot.toList.map fun token => ⟨"cookie", bytesOf (sessionCookieName ++ "=" ++ token)⟩

theorem Slot.sends_headers (slot : Slot) : slot.Sends slot.headers := by
  cases slot with
  | none => exact ⟨rfl, rfl⟩
  | some token => simp [Slot.Sends, Slot.headers, headersNamed]

/-! ## Printable characters -/

/-- Only printable characters of ASCII, blanks among them. -/
def IsPrintableText (cs : List Char) : Prop := ∀ c ∈ cs, 32 ≤ c.toNat ∧ c.toNat ≤ 126

-- Named, because with more instances in scope every character is tried and not those of the text.
instance (cs : List Char) : Decidable (IsPrintableText cs) :=
  List.decidableBAll (fun c : Char => 32 ≤ c.toNat ∧ c.toNat ≤ 126) cs

theorem isPrintableText_append {a b : List Char} :
    IsPrintableText (a ++ b) ↔ IsPrintableText a ∧ IsPrintableText b := List.forall_mem_append

theorem lt_of_isPrintableText {cs : List Char} (h : IsPrintableText cs) : ∀ c ∈ cs, c.toNat < 128 := fun c hc => by
  have := h c hc
  omega

theorem isPrintable_ofNat {n : Nat} (hlo : 32 ≤ n) (hhi : n ≤ 126) : isPrintable (UInt8.ofNat n) = true := by
  have hmod : n % 256 = n := Nat.mod_eq_of_lt (by omega)
  have hle : 32 ≤ UInt8.ofNat n ∧ UInt8.ofNat n ≤ 126 := by
    simp only [UInt8.le_iff_toNat_le, UInt8.toNat_ofNat', hmod]
    exact ⟨hlo, hhi⟩
  simp [isPrintable, hle]

theorem all_isPrintable_utf8Bytes {cs : List Char} (h : IsPrintableText cs) :
    (utf8Bytes cs).all isPrintable = true := by
  rw [utf8Bytes_of_lt (lt_of_isPrintableText h), List.all_map, List.all_eq_true]
  intro c hc
  exact isPrintable_ofNat (h c hc).1 (h c hc).2

theorem isSendable_of_isPrintable {b : UInt8} (h : isPrintable b = true) : isSendable b = true := by
  simp only [isPrintable, isSendable, Bool.or_eq_true, Bool.and_eq_true, decide_eq_true_eq] at h ⊢
  refine h.imp_left fun ⟨hlo, hhi⟩ => ⟨hlo, ?_⟩
  rintro rfl
  exact absurd hhi (by decide)

theorem all_isSendable_of_isPrintableText {cs : List Char} (h : IsPrintableText cs) :
    (utf8Bytes cs).all isSendable = true := by
  rw [List.all_eq_true]
  intro b hb
  exact isSendable_of_isPrintable (List.all_eq_true.1 (all_isPrintable_utf8Bytes h) b hb)

theorem isPrintableText_of_forall {cs : List Char} (h : ∀ c ∈ cs, isDigitOrDot c = true) : IsPrintableText cs :=
  fun c hc => by
    obtain ⟨hlo, hhi, -⟩ := toNat_of_isDigitOrDot (h c hc)
    omega

/-! ## What is sent -/

/-- The characters of the cookie of a token. -/
def cookieLine (token : List Char) : List Char := sessionCookieName.toList ++ '=' :: token

theorem toList_cookie (token : String) :
    (sessionCookieName ++ "=" ++ token).toList = cookieLine token.toList := by
  rw [String.toList_append, String.toList_append, List.append_assoc]
  rfl

theorem takeWhile_cookieLine (token : List Char) :
    (cookieLine token).takeWhile (· != '=') = sessionCookieName.toList :=
  takeWhile_append_mark (by decide) token

theorem dropWhile_cookieLine (token : List Char) : (cookieLine token).dropWhile (· != '=') = '=' :: token :=
  dropWhile_append_mark (by decide) token

theorem notMem_cookieLine {token : List Char} (h : ';' ∉ token) : ';' ∉ cookieLine token := by
  rw [cookieLine, List.mem_append, List.mem_cons, not_or, not_or]
  exact ⟨by decide, by decide, h⟩

section Token

variable {token : List Char} (h : ∀ c ∈ token, isDigitOrDot c = true)
include h

theorem isPrintableText_cookieLine : IsPrintableText (cookieLine token) := by
  rw [cookieLine, isPrintableText_append]
  exact ⟨by decide, List.forall_mem_cons.2 ⟨by decide, isPrintableText_of_forall h⟩⟩

theorem headerText?_cookieLine : headerText? (utf8Bytes (cookieLine token)) = some (String.ofList (cookieLine token)) := by
  have hprintable := isPrintableText_cookieLine h
  rw [headerText?, if_pos (all_isPrintable_utf8Bytes hprintable), asciiOf_utf8Bytes (lt_of_isPrintableText hprintable)]

theorem cookiePair?_cookieLine :
    cookiePair? (cookieLine token) = some (sessionCookieName, String.ofList token) := by
  have hname : strip sessionCookieName.toList = sessionCookieName.toList := by decide
  have hdecodedName : Percent.decodeText? sessionCookieName.toList = some sessionCookieName := by
    rw [decodeText?_of_notMem (by decide), String.ofList_toList]
  have hpercent : '%' ∉ token := notMem_of_isDigitOrDot (by decide) h
  rw [cookiePair?, dropWhile_cookieLine, takeWhile_cookieLine]
  simp only [hname, strip_of_forall fun c hc => isBlank_of_isDigitOrDot (h c hc), hdecodedName,
    decodeText?_of_notMem hpercent]
  rfl

theorem sessionToken?_of_cookie (hne : token ≠ []) {headers : List Header}
    (hsends : Slot.Sends (some (String.ofList token)) headers) : sessionToken? headers = some (String.ofList token) := by
  obtain ⟨hcookie, -⟩ := hsends
  rw [Option.map_some, Option.toList_some, List.map_eq_singleton_iff] at hcookie
  obtain ⟨header, hnamed, hvalue⟩ := hcookie
  rw [bytesOf, toList_cookie, String.toList_ofList] at hvalue
  have hmark : ';' ∉ token := notMem_of_isDigitOrDot (by decide) h
  have hpairs : (headersNamed "cookie" headers).flatMap pairsOf = [] ++ cookieLine token :: [] := by
    rw [hnamed, List.flatMap_singleton, pairsOf, hvalue, headerText?_cookieLine h]
    simp only [String.toList_ofList]
    exact List.splitOn_eq_singleton (notMem_cookieLine hmark)
  have hlast := cookieNamed?_of_pairs hpairs (cookiePair?_cookieLine h) (List.forall_mem_nil _)
  refine sessionToken?_of_cookieNamed? ?_ ?_ hlast
  · simpa using hne
  · rw [String.toList_ofList]
    exact fun c hc => isBlank_of_isDigitOrDot (h c hc)

end Token

theorem sessionToken?_of_empty {headers : List Header} (hsends : Slot.Sends none headers) :
    sessionToken? headers = none := by
  obtain ⟨hcookie, hauthorization⟩ := hsends
  have hnamed : headersNamed "cookie" headers = [] := List.map_eq_nil_iff.1 hcookie
  have hcookies : cookies headers = [] := by rw [cookies, hnamed, List.flatMap_nil]
  rw [sessionToken?, cookieNamed?, hcookies, bearerToken?, hauthorization]
  rfl

/-! ## What is kept -/

/-- The attributes of the session cookie, each with the blank before it. -/
def cookieAttributes (secure : Bool) (seconds : Int) : List (List Char) :=
  " HttpOnly".toList :: " SameSite=Lax".toList :: (if secure then [" Secure".toList] else []) ++
    [" Path=/".toList, " Max-Age=".toList ++ Integer.signedDigits seconds]

theorem eq_minus_or_isDigit {c : Char} {n : Int} (h : c ∈ Integer.signedDigits n) : c = '-' ∨ c.isDigit = true := by
  have hdigits : ∀ c ∈ Integer.digits n.natAbs, c.isDigit = true := fun _ hc =>
    Nat.isDigit_of_mem_toDigits (by decide) (by decide) hc
  rw [Integer.signedDigits] at h
  split_ifs at h
  · exact (List.mem_cons.1 h).imp_right (hdigits c)
  · exact .inr (hdigits c h)

theorem isDigitOrDot_of_mem_signedDigits {c : Char} {n : Int} (h : c ∈ Integer.signedDigits n) :
    isDigitOrDot c = true := by
  rcases eq_minus_or_isDigit h with rfl | hdigit
  · decide
  · rw [Char.isDigit, Bool.and_eq_true, decide_eq_true_eq, decide_eq_true_eq] at hdigit
    have hrange : '0' ≤ c ∧ c ≤ '9' := hdigit
    rw [isDigitOrDot, Base64Url.isDigit, Base64Url.value?, if_pos hrange]
    split_ifs <;> rfl

theorem signedDigits_eq_zero_iff {n : Int} : Integer.signedDigits n = "0".toList ↔ n = 0 := by
  constructor
  · intro h
    rw [Integer.signedDigits] at h
    split_ifs at h
    · exact absurd (List.cons.inj h).1 (by decide)
    · have hzero : some n.natAbs = some 0 := by
        rw [← Integer.digits?_digits, h]
        decide
      exact Int.natAbs_eq_zero.1 (Option.some.inj hzero)
  · rintro rfl
    decide

theorem toList_setCookie (token : String) (secure : Bool) (seconds : Int) :
    (setCookie token secure seconds).toList =
      List.intercalate [';'] (cookieLine token.toList :: cookieAttributes secure seconds) := by
  have hfront : "; HttpOnly; SameSite=Lax".toList = ';' :: " HttpOnly".toList ++ ';' :: " SameSite=Lax".toList := by
    decide
  have hback : "; Path=/; Max-Age=".toList = ';' :: " Path=/".toList ++ ';' :: " Max-Age=".toList := by decide
  have hsecure : "; Secure".toList = ';' :: " Secure".toList := by decide
  rw [setCookie]
  simp only [String.toList_append, hfront, hback]
  cases secure <;> simp [cookieLine, cookieAttributes, List.intercalate, hsecure]

theorem notMem_cookieAttributes (secure : Bool) (seconds : Int) : ∀ a ∈ cookieAttributes secure seconds, ';' ∉ a := by
  have hage : ';' ∉ " Max-Age=".toList ++ Integer.signedDigits seconds := by
    rw [List.mem_append, not_or]
    exact ⟨by decide, notMem_of_isDigitOrDot (by decide) fun c hc => isDigitOrDot_of_mem_signedDigits hc⟩
  cases secure <;>
    simp only [cookieAttributes, Bool.false_eq_true, if_false, if_true, List.cons_append, List.nil_append,
      List.forall_mem_cons]
  · exact ⟨by decide, by decide, by decide, hage, nofun⟩
  · exact ⟨by decide, by decide, by decide, by decide, hage, nofun⟩

theorem strip_maxAge (seconds : Int) :
    strip (" Max-Age=".toList ++ Integer.signedDigits seconds) =
      "Max-Age=".toList ++ Integer.signedDigits seconds := by
  have hname : ∀ c ∈ "Max-Age=".toList, (!isBlank c) = true := List.all_eq_true.1 (by decide)
  show strip (' ' :: ("Max-Age=".toList ++ Integer.signedDigits seconds)) = _
  rw [strip_cons_of_isBlank (by decide), strip_of_forall]
  intro c hc
  rcases List.mem_append.1 hc with hc | hc
  · simpa using hname c hc
  · exact isBlank_of_isDigitOrDot (isDigitOrDot_of_mem_signedDigits hc)

theorem isExpiry_maxAge (seconds : Int) :
    isExpiry (" Max-Age=".toList ++ Integer.signedDigits seconds) = decide (seconds = 0) := by
  rw [isExpiry, strip_maxAge, decide_eq_decide, show "Max-Age=0".toList = "Max-Age=".toList ++ "0".toList by decide,
    List.append_cancel_left_eq, signedDigits_eq_zero_iff]

theorem ageOf?_maxAge (seconds : Int) : ageOf? (" Max-Age=".toList ++ Integer.signedDigits seconds) = some seconds := by
  have hprefix : "Max-Age=".toList.isPrefixOf? ("Max-Age=".toList ++ Integer.signedDigits seconds) =
      some (Integer.signedDigits seconds) := List.isPrefixOf?_eq_some_iff_append_eq.2 rfl
  rw [ageOf?, strip_maxAge, hprefix, Option.bind_some, Integer.integer?_signedDigits]

theorem any_cookieAttributes (secure : Bool) (seconds : Int) :
    (cookieAttributes secure seconds).any isExpiry = decide (seconds = 0) := by
  have honly : isExpiry " HttpOnly".toList = false := by decide
  have hsite : isExpiry " SameSite=Lax".toList = false := by decide
  have hsecure : isExpiry " Secure".toList = false := by decide
  have hpath : isExpiry " Path=/".toList = false := by decide
  cases secure <;>
    simp only [cookieAttributes, Bool.false_eq_true, if_false, if_true, List.cons_append, List.nil_append,
      List.any_cons, List.any_nil, honly, hsite, hsecure, hpath, isExpiry_maxAge, Bool.false_or, Bool.or_false]

theorem filterMap_cookieAttributes (secure : Bool) (seconds : Int) :
    (cookieAttributes secure seconds).filterMap ageOf? = [seconds] := by
  have honly : ageOf? " HttpOnly".toList = none := by decide
  have hsite : ageOf? " SameSite=Lax".toList = none := by decide
  have hsecure : ageOf? " Secure".toList = none := by decide
  have hpath : ageOf? " Path=/".toList = none := by decide
  cases secure <;>
    simp only [cookieAttributes, Bool.false_eq_true, if_false, if_true, List.cons_append, List.nil_append,
      List.filterMap_cons, List.filterMap_nil, honly, hsite, hsecure, hpath, ageOf?_maxAge]

theorem splitOn_setCookie {token : String} (h : ';' ∉ token.toList) (secure : Bool) (seconds : Int) :
    (setCookie token secure seconds).toList.splitOn ';' =
      cookieLine token.toList :: cookieAttributes secure seconds := by
  rw [toList_setCookie, List.splitOn_intercalate _ _ (List.cons_ne_nil _ _)]
  rintro part (_ | ⟨_, hpart⟩)
  · exact notMem_cookieLine h
  · exact notMem_cookieAttributes secure seconds part hpart

theorem accept_setCookie (slot : Slot) {token : String} (h : ';' ∉ token.toList) (secure : Bool) (seconds : Int) :
    slot.accept (setCookie token secure seconds) = if seconds = 0 then none else some token := by
  simp only [Slot.accept, splitOn_setCookie h, takeWhile_cookieLine, dropWhile_cookieLine, any_cookieAttributes,
    decide_eq_true_eq, if_true, List.drop_succ_cons, List.drop_zero, String.ofList_toList]

theorem maxAges_setCookie {token : String} (h : ';' ∉ token.toList) (secure : Bool) (seconds : Int) :
    maxAges (setCookie token secure seconds) = [seconds] := by
  rw [maxAges, splitOn_setCookie h, List.tail_cons, filterMap_cookieAttributes]

theorem eq_of_issue {cookie : SessionCookie} {token value : String} (h : cookie.issue token = .ok value) :
    value = setCookie token cookie.secure cookie.lifetime.seconds := by
  rw [SessionCookie.issue] at h
  split_ifs at h
  exact (Except.ok.inj h).symm

section Issued

variable (cookie : SessionCookie) {token value : String} (htoken : ∀ c ∈ token.toList, isDigitOrDot c = true)
include htoken

theorem issue_eq_ok : cookie.issue token = .ok (setCookie token cookie.secure cookie.lifetime.seconds) := by
  have hprintable := isPrintableText_of_forall htoken
  have hage := isPrintableText_of_forall fun c hc => isDigitOrDot_of_mem_signedDigits (n := cookie.lifetime.seconds) hc
  have hsecure : IsPrintableText (if cookie.secure then "; Secure" else "").toList := by
    cases cookie.secure <;> decide
  have hvalue : IsPrintableText (setCookie token cookie.secure cookie.lifetime.seconds).toList := by
    simp only [setCookie, String.toList_append, String.toList_ofList, isPrintableText_append]
    exact ⟨⟨⟨⟨⟨⟨by decide, by decide⟩, hprintable⟩, by decide⟩, hsecure⟩, by decide⟩, hage⟩
  rw [SessionCookie.issue, if_pos]
  exact all_isSendable_of_isPrintableText hvalue

variable {cookie}

theorem accept_issue (slot : Slot) (hlifetime : cookie.lifetime.seconds ≠ 0) (h : cookie.issue token = .ok value) :
    slot.accept value = some token := by
  have hmark : ';' ∉ token.toList := notMem_of_isDigitOrDot (by decide) htoken
  rw [eq_of_issue h, accept_setCookie slot hmark, if_neg hlifetime]

theorem maxAges_issue (h : cookie.issue token = .ok value) : maxAges value = [cookie.lifetime.seconds] := by
  have hmark : ';' ∉ token.toList := notMem_of_isDigitOrDot (by decide) htoken
  rw [eq_of_issue h, maxAges_setCookie hmark]

end Issued

theorem receive_of_forall (slot : Slot) {response : Response} (h : ∀ field ∈ response.headers, field.1 ≠ "set-cookie") :
    slot.receive response = slot := by
  rw [Slot.receive]
  generalize response.headers = fields at h
  induction fields with
  | nil => rfl
  | cons field fields ih =>
    rw [List.forall_mem_cons] at h
    rw [List.foldl_cons, if_neg h.1, ih h.2]

end Gatehouse.Http
