/-
URLs read as browsers read them. Blanks around a URL and tabs and line ends inside it do not count.
A URL of the web has an authority after any number of slashes; one of another scheme is only checked
for what cannot be an authority. A reference without a scheme is resolved against the URL it stands
in.
-/
import Gatehouse.Url.WebUrl

namespace Gatehouse.Url

open Gatehouse.Text

/-! ## Schemes -/

/-- The kinds of scheme that are read in different ways. -/
inductive SchemeKind where
  /-- Documents of the web. -/
  | web (scheme : WebScheme)
  /-- Schemes that are read like those of documents, with their own port. -/
  | special (port : Nat)
  | file
  | other
  deriving DecidableEq, Repr

/-- The kind of a scheme in lower case. -/
def SchemeKind.of (scheme : List Char) : SchemeKind :=
  if scheme = "http".toList then .web .http
  else if scheme = "https".toList then .web .https
  else if scheme = "ws".toList then .special 80
  else if scheme = "wss".toList then .special 443
  else if scheme = "ftp".toList then .special 21
  else if scheme = "file".toList then .file
  else .other

/-- A character of a scheme after its first letter. -/
def isSchemeChar (c : Char) : Bool := c.isAlphanum || c == '+' || c == '-' || c == '.'

/-- The scheme before the first colon in lower case, and what follows the colon. -/
def splitScheme? (cs : List Char) : Option (List Char × List Char) :=
  let scheme := cs.takeWhile isSchemeChar
  if cs.head?.any Char.isAlpha then
    match cs.dropWhile isSchemeChar with
    | ':' :: rest => some (scheme.map Char.toLower, rest)
    | _ => none
  else none

/-- The characters of a URL that count. -/
def significant (cs : List Char) : List Char :=
  let isOuter := fun (c : Char) => decide (c.toNat ≤ 32)
  let inner := ((cs.dropWhile isOuter).reverse.dropWhile isOuter).reverse
  inner.filter fun c => c != '\t' && c != '\n' && c != '\r'

/-- A slash or a backslash. -/
def isSlash (c : Char) : Bool := c == '/' || c == '\\'

/-! ## Authorities -/

/-- A character that ends an authority. -/
def endsAuthority (special : Bool) (c : Char) : Bool :=
  c == '/' || c == '?' || c == '#' || (special && c == '\\')

/-- What stands before the last `@`, if there is one, and what stands after it. -/
def splitUser (cs : List Char) : Option (List Char) × List Char :=
  let after := (cs.reverse.takeWhile (· != '@')).reverse
  if after.length = cs.length then (none, cs)
  else (some (cs.take (cs.length - after.length - 1)), after)

/-- The host before the first colon outside brackets, and what follows it. -/
def splitHost (inBrackets : Bool) : List Char → List Char × List Char
  | [] => ([], [])
  | c :: r =>
    if c == ':' && !inBrackets then ([], c :: r)
    else
      let (host, rest) := splitHost (c == '[' || (inBrackets && c != ']')) r
      (c :: host, rest)

/-- The port after a colon: digits up to 65535, and nothing else but a backslash after them. The
port of the scheme counts as none. -/
def readPort (schemePort : Option Nat) : List Char → Except UrlError (Option Nat)
  | ':' :: r =>
    let ds := r.takeWhile Char.isDigit
    let port := Nat.ofDigitChars 10 ds 0
    let stop := (r.dropWhile Char.isDigit).head?
    if stop = none ∨ stop = some '\\' then
      if port > 65535 then .error .port
      else if ds.isEmpty ∨ some port = schemePort then .ok none
      else .ok (some port)
    else .error .port
  | _ => .ok none

/-- The user and the password before an `@`, escaped. -/
def readUser (cs : List Char) : List Char × List Char :=
  (escapeIn inUserSet (cs.takeWhile (· != ':')),
   escapeIn inUserSet ((cs.dropWhile (· != ':')).drop 1))

/-- The authority at the front of the characters, and what follows it. -/
def readAuthority (special : Bool) (schemePort : Option Nat) (cs : List Char) :
    Except UrlError (Authority × List Char) := do
  let text := cs.takeWhile fun c => !endsAuthority special c
  let rest := cs.dropWhile fun c => !endsAuthority special c
  let (userText, hostAndPort) := splitUser text
  let (user, password) := readUser (userText.getD [])
  let (hostText, portText) := splitHost false hostAndPort
  if special && hostText.isEmpty then throw .emptyHost
  if userText = some [] && hostAndPort.isEmpty && !rest.isEmpty then throw .emptyHost
  let host ← if special then Host.parseWeb hostText else Host.parseOpaque hostText
  if hostText.isEmpty && !portText.isEmpty then throw .emptyHost
  let port ← readPort schemePort portText
  if hostText.isEmpty && !(user.isEmpty && password.isEmpty) then throw .emptyHost
  return (⟨user, password, host, port⟩, rest)

/-! ## What follows the authority -/

/-- The characters before the query and the fragment, the query and the fragment. -/
def splitTail (cs : List Char) : List Char × Option (List Char) × Option (List Char) :=
  let beforeFragment := cs.takeWhile (· != '#')
  let fragment :=
    match cs.dropWhile (· != '#') with
    | [] => none
    | _ :: r => some (escapeIn inFragmentSet r)
  let query :=
    match beforeFragment.dropWhile (· != '?') with
    | [] => none
    | _ :: r => some (escapeIn inQuerySet r)
  (beforeFragment.takeWhile (· != '?'), query, fragment)

/-- A URL of the web from its authority on. -/
def readWeb (scheme : WebScheme) (cs : List Char) : Except UrlError WebUrl := do
  let (authority, rest) ← readAuthority true (some scheme.port) cs
  let (path, query, fragment) := splitTail rest
  let segments := if path.isEmpty then [] else path.drop 1
  return ⟨scheme, authority, addSegments [] (escapedSegments segments), query, fragment⟩

/-! ## Other paths -/

/-- The text of the path. -/
def WebUrl.pathText (u : WebUrl) : List Char := writePath u.path

/-- The URL with another path, which is read like that of a whole URL. It may come without the slash in
front; a question mark or a number sign in it is escaped, since it ends no path here. -/
def WebUrl.setPath (u : WebUrl) (path : List Char) : WebUrl :=
  let cs := path.filter fun c => c != '\t' && c != '\n' && c != '\r'
  { u with path := addSegments [] (escapedSegments (if cs.head?.any isSlash then cs.drop 1 else cs)) }

/-! ## Other schemes -/

/-- The host of a file can be one; a drive letter is none. -/
def checkFile (cs : List Char) : Except UrlError Unit :=
  match cs with
  | a :: b :: r =>
    let host := r.takeWhile fun c => !endsAuthority true c
    if isSlash a && isSlash b && !host.isEmpty && !isDriveLetter host then do
      let _ ← Host.parseWeb host
      return ()
    else .ok ()
  | _ => .ok ()

/-- The authority of a URL outside the web can be one. -/
def checkOther (cs : List Char) : Except UrlError Unit :=
  match cs with
  | '/' :: '/' :: r => do
    let _ ← readAuthority false none r
    return ()
  | _ => .ok ()

/-! ## Whole URLs -/

/-- What a text denotes: a URL of the web, or some other. -/
inductive Denoted where
  | web (url : WebUrl)
  | other
  deriving DecidableEq, Repr

/-- A URL whose scheme is known, from the colon on. -/
def readScheme (kind : SchemeKind) (cs : List Char) : Except UrlError Denoted :=
  match kind with
  | .web scheme => Denoted.web <$> readWeb scheme (cs.dropWhile isSlash)
  | .special port => do
    let _ ← readAuthority true (some port) (cs.dropWhile isSlash)
    return .other
  | .file => do
    checkFile cs
    return .other
  | .other => do
    checkOther cs
    return .other

/-- What a URL denotes that stands alone. -/
def read (s : String) : Except UrlError Denoted :=
  match splitScheme? (significant s.toList) with
  | some (scheme, rest) => readScheme (.of scheme) rest
  | none => .error .withoutBase

/-! ## References -/

/-- What a reference without a scheme denotes in a URL. -/
def readRelative (base : WebUrl) (cs : List Char) : Except UrlError WebUrl :=
  let (path, query, fragment) := splitTail cs
  match path with
  | [] => .ok { base with query := if cs.head? = some '?' then query else base.query, fragment := fragment }
  | a :: r =>
    if isSlash a then
      if r.head?.any isSlash then readWeb base.scheme (cs.dropWhile isSlash)
      else .ok { base with path := addSegments [] (escapedSegments r), query := query, fragment := fragment }
    else
      .ok { base with
        path := addSegments base.path.dropLast (escapedSegments path), query := query, fragment := fragment }

/-- What a reference denotes that stands in a document of the web. The scheme of the document itself,
without two slashes after it, does not make a reference a whole URL. -/
def WebUrl.resolve (base : WebUrl) (reference : String) : Except UrlError Denoted :=
  let cs := significant reference.toList
  match splitScheme? cs with
  | none => Denoted.web <$> readRelative base cs
  | some (scheme, rest) =>
    if SchemeKind.of scheme = .web base.scheme && (rest.takeWhile isSlash).length < 2 then
      Denoted.web <$> readRelative base rest
    else readScheme (.of scheme) rest

end Gatehouse.Url
