/-
The secret that sessions are signed with, and provider accounts sealed for the way through the user's
hands. The secret is never empty; the key that accounts are sealed under is derived from it. The sealed
form is the account's JSON, encrypted under that key, after the nonce it was encrypted with, in base64.
-/
import Gatehouse.Crypto.Gcm
import Gatehouse.Crypto.Sha256
import Gatehouse.Identity.Basic
import Gatehouse.Json.Record
import Gatehouse.Json.Value
import Gatehouse.Text.Base64Url
import Gatehouse.Text.Basic

namespace Gatehouse.Session

open Gatehouse.Text Gatehouse.Crypto Gatehouse.Identity

/-! ## The secret -/

/-- A secret of at least one byte. -/
structure SigningSecret where
  bytes : List UInt8
  bytes_ne_nil : bytes ≠ []
  deriving DecidableEq

/-- The secret that a text spells, unless it is empty. -/
def SigningSecret.ofText? (s : String) : Option SigningSecret :=
  if h : bytesOf s ≠ [] then some ⟨bytesOf s, h⟩ else none

/-- The signature of a text: the base64 digits of its code under the secret. -/
def SigningSecret.sign (secret : SigningSecret) (message : List Char) : List Char :=
  Base64Url.encode (Hmac.sha256 secret.bytes (utf8Bytes message))

/-- What the key for provider accounts is derived under. -/
def accountKeyContext : String := "dashgate.provider-account.v1"

/-- The key that provider accounts are sealed under. -/
def SigningSecret.accountKey (secret : SigningSecret) : List UInt8 :=
  Sha256.hash (bytesOf accountKeyContext ++ secret.bytes)

/-! ## Accounts -/

/-- Twelve bytes that are used once. -/
structure Nonce where
  bytes : List UInt8
  length_bytes : bytes.length = 12
  deriving DecidableEq

/-- The nonce that a number writes. -/
def Nonce.ofNat (n : Nat) : Nonce := ⟨toBigEndian 12 n, length_toBigEndian 12 n⟩

/-- The account as an object. -/
def accountJson (account : ProviderAccount) : Json.Value :=
  .object [("provider", .text account.provider), ("access_token", .text account.accessToken)]

/-- The account that a JSON value describes. -/
def accountOfJson? (s : Json.Syntax) : Option ProviderAccount := do
  match ← s.fields? ["provider", "access_token"] 2 with
  | [provider, token] => return ⟨← Json.requiredText? provider, ← Json.requiredText? token⟩
  | _ => none

/-- The sealed form of an account. -/
def sealAccount (secret : SigningSecret) (nonce : Nonce) (account : ProviderAccount) : List Char :=
  let text := utf8Bytes (accountJson account).write
  Base64Url.encode (nonce.bytes ++ Gcm.encrypt secret.accountKey nonce.bytes text)

/-- The account of a sealed form. -/
def unsealAccount? (secret : SigningSecret) (blob : List Char) : Option ProviderAccount := do
  let bytes ← Base64Url.decode? blob
  if bytes.length < 12 then none
  else
    let text ← Gcm.decrypt? secret.accountKey (bytes.take 12) (bytes.drop 12)
    accountOfJson? (← Json.Syntax.read text)

end Gatehouse.Session
