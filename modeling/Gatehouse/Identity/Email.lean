/-
Email addresses: a local part, one `@`, and a domain of labels parted by dots. Each label but the
last has 1 to 63 letters, digits or inner hyphens; the last has two or more letters. The grammar is
one pattern, which the whole text has to fit. Case is kept, blanks around the address are not.
-/
import Gatehouse.Text.Basic
import Gatehouse.Text.Pattern

namespace Gatehouse.Identity

open Gatehouse.Text

/-! ## The grammar -/

/-- A character of the local part. -/
def isLocalChar (c : Char) : Bool := c.isAlphanum || ".!#$%&'*+/=?^_`\x7b|\x7d~-".toList.contains c

/-- A label of the domain: a letter or digit, and up to 62 more of them and of hyphens, of which the last is none. -/
def labelPattern : Pattern :=
  (Pattern.one Char.isAlphanum).seq
    (.optional (.seq (.times 0 (some 61) (.one fun c => c.isAlphanum || c == '-')) (.one Char.isAlphanum)))

/-- A label, more labels after dots, and two or more letters after a last dot. -/
def domainPattern : Pattern :=
  labelPattern.seq <| (Pattern.many ((Pattern.char '.').seq labelPattern)).seq <| (Pattern.char '.').seq <|
    .times 2 none (.one Char.isAlpha)

/-- A local part, an `@` and a domain. -/
def addressPattern : Pattern := (Pattern.many1 (.one isLocalChar)).seq <| (Pattern.char '@').seq domainPattern

def isAddress (cs : List Char) : Bool := addressPattern.fits cs

/-- The greatest length of an address in bytes. -/
def maxAddressBytes : Nat := 254

/-! ## Addresses -/

/-- An address of the grammar, without blanks around it. -/
structure EmailAddress where
  text : String
  isAddress_text : isAddress text.toList = true
  length_le : text.utf8ByteSize ≤ maxAddressBytes
  deriving DecidableEq

/-- Why a text is no address. -/
inductive EmailError where
  | missing
  | malformed
  deriving DecidableEq, Repr

/-- The message of a refused address. -/
def EmailError.message : EmailError → String
  | .missing => "email is required"
  | .malformed => "email is not a valid address"

/-- The address that a text holds, apart from blanks around it. -/
def EmailAddress.parse (raw : String) : Except EmailError EmailAddress :=
  let text := trim raw
  if text.isEmpty then .error .missing
  else if h : text.utf8ByteSize ≤ maxAddressBytes ∧ isAddress text.toList = true then
    .ok ⟨text, h.2, h.1⟩
  else .error .malformed

end Gatehouse.Identity
