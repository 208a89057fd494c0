/-
The host of a URL, and the errors and escapes that all parts of URLs share. Each part has its own set of
characters that are escaped in it. A host is an IPv6 address in brackets, an IPv4 address or a name; under
the schemes of the web, a name is unescaped and brought into its ASCII form, and under other schemes it is
taken as it is.
-/
import Gatehouse.Text.Basic
import Gatehouse.Url.Domain
import Gatehouse.Url.Ipv4
import Gatehouse.Url.Ipv6

namespace Gatehouse.Url

open Gatehouse.Text

/-! ## Errors -/

/-- Why a text is no URL. -/
inductive UrlError where
  | emptyHost
  | domain
  | port
  | ipv4
  | ipv6
  | hostCharacter
  | withoutBase
  deriving DecidableEq, Repr

/-- The message of a refused URL. -/
def UrlError.message : UrlError → String
  | .emptyHost => "empty host"
  | .domain => "invalid international domain name"
  | .port => "invalid port number"
  | .ipv4 => "invalid IPv4 address"
  | .ipv6 => "invalid IPv6 address"
  | .hostCharacter => "invalid domain character"
  | .withoutBase => "relative URL without a base"

/-! ## Escapes -/

/-- A character that is escaped in every part. -/
def isControl (c : Char) : Bool := c.toNat < 32 || c.toNat ≥ 127

/-- A character that is escaped in a fragment. -/
def inFragmentSet (c : Char) : Bool := isControl c || [' ', '"', '<', '>', '`'].contains c

/-- A character that is escaped in a query. -/
def inQuerySet (c : Char) : Bool := isControl c || [' ', '"', '#', '<', '>', '\''].contains c

/-- A character that is escaped in a path. -/
def inPathSet (c : Char) : Bool := inFragmentSet c || ['#', '?', '{', '}'].contains c

/-- A character that is escaped in the name and the password of a user. -/
def inUserSet (c : Char) : Bool :=
  inPathSet c || ['/', ':', ';', '=', '@', '[', '\\', ']', '^', '|'].contains c

/-- The text with the characters of a set escaped. -/
def escapeIn (set : Char → Bool) (cs : List Char) : List Char :=
  Percent.encodeWith (fun c => !set c) cs

/-! ## Hosts -/

/-- A host. -/
inductive Host where
  | name (cs : List Char)
  | ipv4 (address : Nat)
  | ipv6 (groups : List Nat)
  deriving DecidableEq, Repr

/-- A host as it stands in a URL. -/
def Host.write : Host → List Char
  | .name cs => cs
  | .ipv4 address => writeIpv4 address
  | .ipv6 groups => '[' :: writeIpv6 groups ++ [']']

/-- The address between brackets. -/
def bracketed (cs : List Char) : Except UrlError Host :=
  if cs.getLast? = some ']' then
    match ipv6? cs.dropLast with
    | some groups => .ok (.ipv6 groups)
    | none => .error .ipv6
  else .error .ipv6

/-- The name or the IPv4 address that a host of the web spells. -/
def webName (cs : List Char) : Except UrlError Host :=
  match (Percent.decodeText? cs).bind fun s => domainToAscii? s.toList with
  | none => .error .domain
  | some [] => .error .emptyHost
  | some name =>
    if endsInNumber name then
      match ipv4? name with
      | some address => .ok (.ipv4 address)
      | none => .error .ipv4
    else .ok (.name name)

/-- A host under a scheme of the web. -/
def Host.parseWeb : List Char → Except UrlError Host
  | '[' :: r => bracketed r
  | cs => webName cs

/-- A character that no host may hold under another scheme. -/
def isForbiddenOpaque (c : Char) : Bool :=
  ['\x00', '\t', '\n', '\r', ' ', '#', '/', ':', '<', '>', '?', '@', '[', '\\', ']', '^', '|'].contains c

/-- A host under another scheme. -/
def Host.parseOpaque : List Char → Except UrlError Host
  | '[' :: r => bracketed r
  | cs => if cs.any isForbiddenOpaque then .error .hostCharacter else .ok (.name (escapeIn isControl cs))

end Gatehouse.Url
