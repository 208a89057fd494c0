/-
How a URL of the web is read. Its text falls into the name of a scheme, slashes, an authority, a path, and a tail of
query and fragment. Each part is read by itself, so that texts with most parts in common denote URLs that have as
much in common.
-/
import Gatehouse.Proofs.Except
import Gatehouse.Proofs.Text.LetterCase
import Gatehouse.Proofs.Text.Plain
import Gatehouse.Proofs.Url.Path

namespace Gatehouse.Url

open Gatehouse.Text

/-! ## Schemes -/

/-- The name of a scheme: a letter, and then characters of schemes. -/
structure IsSchemeName (name : List Char) : Prop where
  head : name.head?.any Char.isAlpha = true
  chars : ∀ c ∈ name, isSchemeChar c = true

instance (name : List Char) : Decidable (IsSchemeName name) :=
  decidable_of_iff (name.head?.any Char.isAlpha = true ∧ name.all isSchemeChar = true) <| by
    rw [List.all_eq_true]
    exact ⟨fun ⟨hhead, hchars⟩ => ⟨hhead, hchars⟩, fun h => ⟨h.head, h.chars⟩⟩

/-- The host and the port that stand behind the user. -/
def readHostAndPort (schemePort : Option Nat) (cs : List Char) : Except UrlError (Host × Option Nat) :=
  let (hostText, portText) := splitHost false cs
  if hostText.isEmpty then .error .emptyHost
  else do
    let host ← Host.parseWeb hostText
    let port ← readPort schemePort portText
    return (host, port)

/-- An authority of the web from its text: user and password before the last `@`, host and port behind it. -/
def authorityOf (schemePort : Option Nat) (text : List Char) : Except UrlError Authority :=
  let (userText, hostText) := splitUser text
  let (user, password) := readUser (userText.getD [])
  (fun (place : Host × Option Nat) => ⟨user, password, place.1, place.2⟩) <$> readHostAndPort schemePort hostText

/-- A query and a fragment, each behind its mark, or one of them, or none. -/
def IsTail (cs : List Char) : Prop := ∀ c ∈ cs.head?, c = '?' ∨ c = '#'

/-- A text that neither a query nor a fragment begins in. -/
def HasNoTail (cs : List Char) : Prop := ∀ c ∈ cs, c ≠ '?' ∧ c ≠ '#'

instance (cs : List Char) : Decidable (IsTail cs) :=
  decidable_of_iff (cs.head?.all (fun c => c == '?' || c == '#') = true) <| by
    simp [IsTail, Option.all_eq_true]

instance (cs : List Char) : Decidable (HasNoTail cs) :=
  decidable_of_iff (cs.all (fun c => c != '?' && c != '#') = true) <| by
    simp [HasNoTail]

/-- The parts of the text of a URL of the web. -/
structure WebText where
  scheme : WebScheme
  name : List Char
  slashes : List Char
  authority : List Char
  path : List Char
  tail : List Char

/-- The text that the parts make. -/
def WebText.text (t : WebText) : List Char :=
  t.name ++ ':' :: (t.slashes ++ (t.authority ++ (t.path ++ t.tail)))

/-- Each part is what it is taken for, and as long as it can be. -/
structure WebText.IsSound (t : WebText) : Prop where
  name : t.name.map Char.toLower = t.scheme.name.toList
  slashes : ∀ c ∈ t.slashes, isSlash c = true
  authority : ∀ c ∈ t.authority, endsAuthority true c = false
  path : HasNoTail t.path
  path_head : ∀ c ∈ t.path.head?, isSlash c = true
  path_nil : t.authority = [] → t.path = []
  tail : IsTail t.tail

/-- The URL that the parts denote. -/
def WebText.url (t : WebText) : Except UrlError WebUrl :=
  (fun a => ⟨t.scheme, a, addSegments [] (escapedSegments (t.path.drop 1)), (splitTail t.tail).2.1,
    (splitTail t.tail).2.2⟩) <$> authorityOf (some t.scheme.port) t.authority

variable {t : WebText}

/-- What stands in front of the tail. -/
def WebText.front (t : WebText) : List Char := t.name ++ ':' :: (t.slashes ++ (t.authority ++ t.path))

variable {s s' : String} {u : WebUrl}

/-- The texts differ at most in their queries and fragments. -/
def DifferInTail (s s' : String) : Prop :=
  ∃ front tail tail', HasNoTail front ∧ IsTail tail ∧ IsTail tail' ∧
    significant s.toList = front ++ tail ∧ significant s'.toList = front ++ tail'

theorem DifferInTail.symm (h : DifferInTail s s') : DifferInTail s' s := by
  obtain ⟨front, tail, tail', hfront, htail, htail', hs, hs'⟩ := h
  exact ⟨front, tail', tail, hfront, htail', htail, hs', hs⟩

/-- The text of a URL with a user, in parts around the password. -/
structure UserText where
  name : List Char
  slashes : List Char
  user : List Char
  host : List Char
  rest : List Char

/-- The authority with a password, or without one. -/
def UserText.authority (t : UserText) (password : Option (List Char)) : List Char :=
  t.user ++ writePart ':' password ++ '@' :: t.host

/-- The text with a password, or without one. -/
def UserText.text (t : UserText) (password : Option (List Char)) : List Char :=
  t.name ++ ':' :: (t.slashes ++ (t.authority password ++ t.rest))

/-- The scheme is one under which a backslash is a slash. -/
def UserText.isSpecial (t : UserText) : Bool := decide (SchemeKind.of (t.name.map Char.toLower) ≠ .other)

/-- Each part is what it is taken for, whatever the scheme: the password stands between the first colon and the last
`@` of the authority. -/
structure UserText.IsSound (t : UserText) (password : Option (List Char)) : Prop where
  name : IsSchemeName t.name
  slashes : ∀ c ∈ t.slashes, isSlash c = true
  authority : ∀ c ∈ t.authority password, endsAuthority t.isSpecial c = false
  user : ':' ∉ t.user
  host : '@' ∉ t.host
  rest : ∀ c ∈ t.rest.head?, endsAuthority t.isSpecial c = true

instance (t : UserText) (password : Option (List Char)) : Decidable (t.IsSound password) :=
  decidable_of_iff (IsSchemeName t.name ∧ t.slashes.all isSlash = true ∧
      (t.authority password).all (fun c => !endsAuthority t.isSpecial c) = true ∧ ':' ∉ t.user ∧ '@' ∉ t.host ∧
      t.rest.head?.all (endsAuthority t.isSpecial) = true) <| by
    simp only [List.all_eq_true, Bool.not_eq_true', Option.all_eq_true]
    exact ⟨fun ⟨hname, hslashes, hauthority, huser, hhost, hrest⟩ => ⟨hname, hslashes, hauthority, huser, hhost, hrest⟩,
      fun h => ⟨h.name, h.slashes, h.authority, h.user, h.host, h.rest⟩⟩

/-- The texts differ at most in the password before the host. -/
def DifferInPassword (s s' : String) : Prop :=
  ∃ t : UserText, ∃ password password', t.IsSound password ∧ t.IsSound password' ∧
    significant s.toList = t.text password ∧ significant s'.toList = t.text password'

theorem DifferInPassword.symm (h : DifferInPassword s s') : DifferInPassword s' s := by
  obtain ⟨t, password, password', ht, ht', hs, hs'⟩ := h
  exact ⟨t, password', password, ht', ht, hs', hs⟩

end Gatehouse.Url
