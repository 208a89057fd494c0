/-
URLs of the schemes `http` and `https`: user, host, port, path, query and fragment. The path is a
list of segments, none of which is a dot segment, and never empty; the parts are kept escaped, so
that writing a URL only puts them together.
-/
import Gatehouse.Route.Path
import Gatehouse.Url.Host

namespace Gatehouse.Url

open Gatehouse.Text

/-- A scheme of the web's documents. -/
inductive WebScheme where
  | http
  | https
  deriving DecidableEq, Repr

/-- The name of a scheme. -/
def WebScheme.name : WebScheme → String
  | .http => "http"
  | .https => "https"

/-- The port of a scheme, which is left out of a URL. -/
def WebScheme.port : WebScheme → Nat
  | .http => 80
  | .https => 443

/-- Who is asked where. -/
structure Authority where
  user : List Char
  password : List Char
  host : Host
  port : Option Nat
  deriving DecidableEq, Repr

/-- A URL of the web. -/
structure WebUrl where
  scheme : WebScheme
  authority : Authority
  path : List (List Char)
  query : Option (List Char)
  fragment : Option (List Char)
  deriving DecidableEq, Repr

/-! ## Writing -/

/-- The user and the password before an `@`; a password that is empty needs no colon. -/
def Authority.writeUser (a : Authority) : List Char :=
  if a.user.isEmpty && a.password.isEmpty then []
  else a.user ++ (if a.password.isEmpty then [] else ':' :: a.password) ++ ['@']

/-- A part after the mark that introduces it. -/
def writePart (mark : Char) : Option (List Char) → List Char
  | none => []
  | some cs => mark :: cs

/-- Each segment after a slash. -/
def writePath (path : List (List Char)) : List Char := path.flatMap ('/' :: ·)

/-- The authority as it stands in a URL. -/
def Authority.write (a : Authority) : List Char :=
  a.writeUser ++ a.host.write ++ writePart ':' (a.port.map Integer.digits)

/-- The characters of a URL. -/
def WebUrl.write (u : WebUrl) : List Char :=
  u.scheme.name.toList ++ "://".toList ++ u.authority.write ++ writePath u.path ++
    writePart '?' u.query ++ writePart '#' u.fragment

/-- The text of a URL. -/
def WebUrl.render (u : WebUrl) : String := String.ofList u.write

/-- What a request for a URL names: the path and the query. -/
def WebUrl.target (u : WebUrl) : String := String.ofList (writePath u.path ++ writePart '?' u.query)

/-! ## Paths -/

/-- A drive letter: a letter and a colon, or the bar that stands for one. -/
def isDriveLetter (cs : List Char) : Bool :=
  match cs with
  | [c, d] => c.isAlpha && (d == ':' || d == '|')
  | _ => false

/-- The path one level up. A drive letter is left by no path, whatever the scheme. -/
def climb (path : List (List Char)) : List (List Char) :=
  if path.getLast?.any isDriveLetter then path else path.dropLast

/-- The segments added to a path one by one; dot segments are followed, not added. After a dot
segment at the end the path ends in a slash. -/
def addSegments (path : List (List Char)) : List (List Char) → List (List Char)
  | [] => path
  | [s] =>
    if Route.isParent s then climb path ++ [[]]
    else if Route.isCurrent s then path ++ [[]]
    else path ++ [s]
  | s :: s' :: r =>
    let path :=
      if Route.isParent s then climb path
      else if Route.isCurrent s then path
      else path ++ [s]
    addSegments path (s' :: r)

/-- The segments of a text, escaped. -/
def escapedSegments (cs : List Char) : List (List Char) :=
  (Route.segments cs).map (escapeIn inPathSet)

end Gatehouse.Url
