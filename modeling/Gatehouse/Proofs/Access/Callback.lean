/-
The way back after a sign-in. The path that was asked for is the last query parameter of the `Location`,
where decoding finds it unchanged; the target in front of it stays as it is, and the path that comes back
is judged as the one that was asked for.
-/
import Gatehouse.Proofs.Access.Decision
import Gatehouse.Proofs.Http.Client
import Gatehouse.Proofs.Route.Path
import Gatehouse.Proofs.Text.Percent

namespace Gatehouse.Access

open Gatehouse.Http Gatehouse.Route Gatehouse.Text

/-! ## The parts of a location -/

/-- A location without its fragment. -/
def withoutFragment (location : List Char) : List Char := location.takeWhile (· != '#')

/-- What stands before the query of a location. -/
def beforeQuery (location : List Char) : List Char := (withoutFragment location).takeWhile (· != '?')

/-- The query parameters of a location, as they are spelled; without a query there are none. -/
def queryParameters (location : List Char) : List (List Char) :=
  match (withoutFragment location).dropWhile (· != '?') with
  | [] => []
  | _ :: query => query.splitOn '&'

/-- The name of a query parameter. -/
def nameOf (parameter : List Char) : List Char := parameter.takeWhile (· != '=')

/-- The value of a query parameter. -/
def valueOf (parameter : List Char) : List Char := (parameter.dropWhile (· != '=')).drop 1

section Query

variable {path query : List Char} (hquery : '?' ∉ path)
include hquery

theorem beforeQuery_of_notMem (hfragment : '#' ∉ path) : beforeQuery path = path := by
  rw [beforeQuery, withoutFragment, takeWhile_of_notMem hfragment, takeWhile_of_notMem hquery]

theorem queryParameters_of_notMem (hfragment : '#' ∉ path) : queryParameters path = [] := by
  rw [queryParameters, withoutFragment, takeWhile_of_notMem hfragment, dropWhile_of_notMem hquery]

theorem beforeQuery_append (hfragment : '#' ∉ path ++ '?' :: query) : beforeQuery (path ++ '?' :: query) = path := by
  rw [beforeQuery, withoutFragment, takeWhile_of_notMem hfragment, takeWhile_append_mark hquery]

theorem queryParameters_append (hfragment : '#' ∉ path ++ '?' :: query) :
    queryParameters (path ++ '?' :: query) = query.splitOn '&' := by
  rw [queryParameters, withoutFragment, takeWhile_of_notMem hfragment, dropWhile_append_mark hquery]

end Query

/-! ## Encoded callbacks -/

theorem toNat_of_isAlphanum {c : Char} (h : c.isAlphanum = true) :
    48 ≤ c.toNat ∧ c.toNat ≤ 122 ∧ c.toNat ≠ 61 ∧ c.toNat ≠ 63 := by
  unfold Char.isAlphanum Char.isAlpha Char.isUpper Char.isLower Char.isDigit at h
  simp only [Bool.or_eq_true, Bool.and_eq_true, decide_eq_true_eq] at h
  rcases h with (⟨hlo, hhi⟩ | ⟨hlo, hhi⟩) | ⟨hlo, hhi⟩
  · have hlo : 65 ≤ c.toNat := hlo
    have hhi : c.toNat ≤ 90 := hhi
    omega
  · have hlo : 97 ≤ c.toNat := hlo
    have hhi : c.toNat ≤ 122 := hhi
    omega
  · have hlo : 48 ≤ c.toNat := hlo
    have hhi : c.toNat ≤ 57 := hhi
    omega

theorem isAlphanum_of_isDigit {c : Char} (h : Hex.isDigit c = true) : c.isAlphanum = true := by
  unfold Hex.isDigit Hex.value? at h
  unfold Char.isAlphanum Char.isAlpha Char.isUpper Char.isLower Char.isDigit
  simp only [Bool.or_eq_true, Bool.and_eq_true, decide_eq_true_eq]
  split_ifs at h with hdigit hlower hupper
  · exact .inr hdigit
  · exact .inl (.inr ⟨hlower.1, Char.le_trans hlower.2 (by decide)⟩)
  · exact .inl (.inl ⟨hupper.1, Char.le_trans hupper.2 (by decide)⟩)
  · exact nomatch h

theorem staysInCallback_eq : staysInCallback = fun c => c.isAlphanum || "-._~/".toList.contains c := by
  funext c
  have hmarks : "-._~/".toList = ['-', '.', '_', '~', '/'] := by decide
  unfold staysInCallback Percent.isUnreserved
  rw [hmarks]
  simp only [List.contains_cons, List.contains_nil, Bool.or_false, Bool.or_assoc]

/-- The characters of an encoded callback are printable and part nothing in a query. -/
theorem bounds_of_mem_callback {cs : List Char} {c : Char} (h : c ∈ Percent.encodeWith staysInCallback cs) :
    37 ≤ c.toNat ∧ c.toNat ≤ 126 ∧ c.toNat ≠ 38 ∧ c.toNat ≠ 61 ∧ c.toNat ≠ 63 := by
  have hdigits {d : Char} (hd : d.isAlphanum = true) :
      37 ≤ d.toNat ∧ d.toNat ≤ 126 ∧ d.toNat ≠ 38 ∧ d.toNat ≠ 61 ∧ d.toNat ≠ 63 := by
    have := toNat_of_isAlphanum hd
    omega
  rcases (Percent.isEncoded_encodeWith staysInCallback cs).mem h with hstays | rfl | hdigit
  · unfold staysInCallback Percent.isUnreserved at hstays
    simp only [Bool.or_eq_true, beq_iff_eq] at hstays
    rcases hstays with ((((halnum | rfl) | rfl) | rfl) | rfl) | rfl
    · exact hdigits halnum
    all_goals decide
  · decide
  · exact hdigits (isAlphanum_of_isDigit hdigit)

theorem notMem_callback {mark : Char} (hmark : mark = '#' ∨ mark = '&' ∨ mark = '=' ∨ mark = '?') (cs : List Char) :
    mark ∉ Percent.encodeWith staysInCallback cs := by
  intro h
  have hbounds := bounds_of_mem_callback h
  rcases hmark with rfl | rfl | rfl | rfl
  all_goals exact absurd hbounds (by decide)

/-! ## Locations with a callback -/

/-- The query parameter for a callback. -/
def callbackQuery (path : String) : List Char :=
  callbackParameter.toList ++ '=' :: Percent.encodeWith staysInCallback path.toList

theorem toList_location (target path : String) :
    (Redirect.location ⟨target, some path⟩).toList =
      target.toList ++ (if '?' ∈ target.toList then '&' else '?') :: callbackQuery path := by
  simp only [Redirect.location, callbackQuery, String.toList_append, String.toList_ofList, encodeCallback_eq,
    List.contains_iff_mem, List.append_assoc]
  split_ifs <;> rfl

theorem notMem_callbackQuery {mark : Char} (hmark : mark = '#' ∨ mark = '&' ∨ mark = '?') (path : String) :
    mark ∉ callbackQuery path := by
  rw [callbackQuery, List.mem_append, List.mem_cons, not_or, not_or]
  refine ⟨?_, ?_, notMem_callback (by tauto) _⟩
  · rcases hmark with rfl | rfl | rfl
    all_goals decide
  · rcases hmark with rfl | rfl | rfl
    all_goals decide

theorem nameOf_callbackQuery (path : String) : nameOf (callbackQuery path) = callbackParameter.toList :=
  takeWhile_append_mark (by decide) _

theorem valueOf_callbackQuery (path : String) :
    valueOf (callbackQuery path) = Percent.encodeWith staysInCallback path.toList := by
  rw [valueOf, callbackQuery, dropWhile_append_mark (by decide), List.drop_one, List.tail_cons]

theorem decodeText?_callbackQuery (path : String) : Percent.decodeText? (valueOf (callbackQuery path)) = some path := by
  rw [valueOf_callbackQuery, Percent.decodeText?_encodeWith (by decide), String.ofList_toList]

section Location

variable {target : String} (hfragment : '#' ∉ target.toList) (path : String)
include hfragment

theorem notMem_location : '#' ∉ (Redirect.location ⟨target, some path⟩).toList := by
  rw [toList_location, List.mem_append, List.mem_cons, not_or, not_or]
  refine ⟨hfragment, ?_, notMem_callbackQuery (.inl rfl) path⟩
  split_ifs <;> decide

/-- A callback becomes the last query parameter, after those of the target. -/
theorem parts_location :
    beforeQuery (Redirect.location ⟨target, some path⟩).toList = beforeQuery target.toList ∧
      queryParameters (Redirect.location ⟨target, some path⟩).toList =
        queryParameters target.toList ++ [callbackQuery path] := by
  have hlocation := notMem_location hfragment path
  have hsingle : (callbackQuery path).splitOn '&' = [callbackQuery path] :=
    List.splitOn_eq_singleton (notMem_callbackQuery (.inr (.inl rfl)) path)
  rw [toList_location] at hlocation ⊢
  by_cases hquery : '?' ∈ target.toList
  · -- the target's own query goes on behind its last parameter
    obtain ⟨before, query, htarget, hbefore⟩ := List.eq_append_cons_of_mem hquery
    rw [if_pos hquery] at hlocation ⊢
    rw [htarget] at hfragment hlocation ⊢
    rw [List.append_assoc, List.cons_append] at hlocation ⊢
    rw [beforeQuery_append hbefore hlocation, beforeQuery_append hbefore hfragment,
      queryParameters_append hbefore hlocation, queryParameters_append hbefore hfragment,
      List.splitOn_append_cons_self, hsingle]
    exact ⟨rfl, rfl⟩
  · rw [if_neg hquery] at hlocation ⊢
    rw [beforeQuery_append hquery hlocation, beforeQuery_of_notMem hquery hfragment,
      queryParameters_append hquery hlocation, queryParameters_of_notMem hquery hfragment, hsingle]
    exact ⟨rfl, rfl⟩

theorem eq_of_location_eq {other : String}
    (h : Redirect.location ⟨target, some path⟩ = Redirect.location ⟨target, some other⟩) : path = other := by
  obtain ⟨-, hpath⟩ := parts_location hfragment path
  obtain ⟨-, hother⟩ := parts_location hfragment other
  rw [h, hother, List.append_cancel_left_eq] at hpath
  have hdecoded := decodeText?_callbackQuery other
  rw [(List.cons.inj hpath).1, decodeText?_callbackQuery] at hdecoded
  exact Option.some.inj hdecoded

end Location

/-! ## Header values -/

theorem all_isSendable_location {target : String} (htarget : (bytesOf target).all isSendable = true) (path : String) :
    (bytesOf (Redirect.location ⟨target, some path⟩)).all isSendable = true := by
  have hcallback : IsPrintableText (Percent.encodeWith staysInCallback path.toList) := by
    intro c hc
    have := bounds_of_mem_callback hc
    omega
  have hrest : IsPrintableText ((if '?' ∈ target.toList then '&' else '?') :: callbackQuery path) := by
    have hmark : 32 ≤ (if '?' ∈ target.toList then '&' else '?').toNat ∧
        (if '?' ∈ target.toList then '&' else '?').toNat ≤ 126 := by
      split_ifs <;> decide
    refine List.forall_mem_cons.2 ⟨hmark, ?_⟩
    rw [callbackQuery]
    exact isPrintableText_append.2 ⟨by decide, List.forall_mem_cons.2 ⟨by decide, hcallback⟩⟩
  rw [bytesOf, toList_location, utf8Bytes_append, List.all_append, Bool.and_eq_true]
  exact ⟨htarget, all_isSendable_of_isPrintableText hrest⟩

/-! ## Sign-in -/

/-- Who has to sign in is sent to the login, and the canonical path is called back. -/
theorem redirect_of_signInRequired {authorizer : Authorizer} {path : String} {visitor : Visitor} {redirect : Redirect}
    (h : authorizer.authorize path visitor = ⟨.signInRequired, .redirect redirect⟩) :
    redirect = ⟨authorizer.targets.login, some (normalize path)⟩ := by
  unfold Authorizer.authorize at h
  cases visitor with
  | anonymous =>
    rw [decide_anonymous] at h
    split_ifs at h
    · cases h
    · cases h
    · cases h
      rfl
  | signedIn onboarded =>
    -- whoever is signed in is never asked to sign in
    rw [decide_signedIn] at h
    split_ifs at h
    · cases h
    · cases h
    · cases h
    · cases onboarded <;> cases h
    · cases h

theorem authorize_normalize (authorizer : Authorizer) (path : String) (visitor : Visitor) :
    authorizer.authorize (normalize path) visitor = authorizer.authorize path visitor := by
  unfold Authorizer.authorize
  rw [normalize_normalize]

/-- The location of a redirect by the rule `.signInRequired`, if the login target has no fragment: the target is a
prefix of it, with the same `beforeQuery`, and its `queryParameters` are those of the target and one more, named
`callbackUrl`, whose value decodes to `normalize path` and `IsEncoded` in letters, digits, `-._~/` and escapes. It
`isSendable` if the target is. Different callbacks have different locations, and `normalize path` is judged like
`path` for every visitor. -/
theorem sign_in_callback {authorizer : Authorizer} {path : String} {visitor : Visitor} {redirect : Redirect}
    (hfragment : '#' ∉ authorizer.targets.login.toList)
    (h : authorizer.authorize path visitor = ⟨.signInRequired, .redirect redirect⟩) :
    let login := authorizer.targets.login
    let location := redirect.location
    (login.toList <+: location.toList ∧ beforeQuery location.toList = beforeQuery login.toList ∧
      ∃ callback, queryParameters location.toList = queryParameters login.toList ++ [callback] ∧
        nameOf callback = "callbackUrl".toList ∧
        Percent.decodeText? (valueOf callback) = some (normalize path) ∧
        Percent.IsEncoded (fun c => c.isAlphanum || "-._~/".toList.contains c) (valueOf callback)) ∧
    ((bytesOf login).all isSendable = true → (bytesOf location).all isSendable = true) ∧
    (∀ p q : String, p ≠ q → Redirect.location ⟨login, some p⟩ ≠ Redirect.location ⟨login, some q⟩) ∧
    ∀ other : Visitor, authorizer.authorize (normalize path) other = authorizer.authorize path other := by
  intro login location
  have hredirect := redirect_of_signInRequired h
  have hlocation : location = Redirect.location ⟨login, some (normalize path)⟩ := congrArg Redirect.location hredirect
  obtain ⟨hbefore, hparameters⟩ := parts_location hfragment (normalize path)
  rw [hlocation]
  refine ⟨⟨?_, hbefore, callbackQuery (normalize path), hparameters, nameOf_callbackQuery _,
    decodeText?_callbackQuery _, ?_⟩, fun hlogin => all_isSendable_location hlogin _, ?_,
    authorize_normalize authorizer path⟩
  · rw [toList_location]
    exact List.prefix_append _ _
  · rw [valueOf_callbackQuery]
    exact staysInCallback_eq ▸ Percent.isEncoded_encodeWith staysInCallback _
  · intro p q hne heq
    exact hne (eq_of_location_eq hfragment p heq)

/-- A login page that takes a language. -/
def germanLogin : Authorizer := ⟨.reference, { RedirectTargets.reference with login := "/login?lang=de" }⟩

/-- Behind `/login?lang=de` stands a callback with an ampersand, a number sign and an umlaut of its own, and none of
them ends the parameter. -/
theorem sign_in_callback_german :
    ∃ redirect, germanLogin.authorize "/x/../Pläne&co#1/" .anonymous = ⟨.signInRequired, .redirect redirect⟩ ∧
      ∃ callback, queryParameters redirect.location.toList = ["lang=de".toList, callback] ∧
        Percent.decodeText? (valueOf callback) = some "/Pläne&co#1" := by
  have hsign : germanLogin.authorize "/x/../Pläne&co#1/" .anonymous =
      ⟨.signInRequired, .redirect ⟨"/login?lang=de", some "/Pläne&co#1"⟩⟩ := by decide +kernel
  refine ⟨_, hsign, ?_⟩
  obtain ⟨⟨-, -, callback, hparameters, -, hdecoded, -⟩, -⟩ := sign_in_callback (by decide +kernel) hsign
  have hown : queryParameters germanLogin.targets.login.toList = ["lang=de".toList] := by decide +kernel
  have hpath : normalize "/x/../Pläne&co#1/" = "/Pläne&co#1" := by decide +kernel
  rw [hown] at hparameters
  rw [hpath] at hdecoded
  exact ⟨callback, hparameters, hdecoded⟩

end Gatehouse.Access
