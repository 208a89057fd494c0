/-
A sealed account is unsealed as itself under the secret it was sealed with, whatever its texts and
the nonce are; the sealed form has the length that the account's JSON gives it.
-/
import Gatehouse.Proofs.Crypto.Gcm
import Gatehouse.Proofs.Json.Record
import Gatehouse.Proofs.Text.Base64Url
import Gatehouse.Session.SealedAccount

namespace Gatehouse.Session

open Gatehouse.Text Gatehouse.Crypto Gatehouse.Identity Gatehouse.Json

/-- The bytes of an account's JSON. -/
def accountBytes (account : ProviderAccount) : List UInt8 := utf8Bytes (accountJson account).write

/-- The bytes of a sealed account: the nonce, the encrypted JSON and its tag. -/
def sealedBytes (secret : SigningSecret) (nonce : Nonce) (account : ProviderAccount) : List UInt8 :=
  nonce.bytes ++ Gcm.encrypt secret.accountKey nonce.bytes (accountBytes account)

variable (secret : SigningSecret) (nonce : Nonce) (account : ProviderAccount)

theorem sealAccount_eq : sealAccount secret nonce account = Base64Url.encode (sealedBytes secret nonce account) := rfl

theorem length_sealedBytes :
    (sealedBytes secret nonce account).length = 12 + (accountBytes account).length + 16 := by
  rw [sealedBytes, List.length_append, nonce.length_bytes, Gcm.length_encrypt, Gcm.tagLength, Nat.add_assoc]

theorem take_sealedBytes : (sealedBytes secret nonce account).take 12 = nonce.bytes :=
  List.take_left' nonce.length_bytes

theorem drop_sealedBytes : (sealedBytes secret nonce account).drop 12 =
    Gcm.encrypt secret.accountKey nonce.bytes (accountBytes account) :=
  List.drop_left' nonce.length_bytes

theorem accountOfJson?_accountJson : accountOfJson? (accountJson account).shape = some account := by
  rw [accountOfJson?, accountJson, fields?_shape]
  · rfl
  · show ["provider", "access_token"].Nodup
    decide

theorem read_accountBytes : Syntax.read (accountBytes account) = some (accountJson account).shape :=
  read_write (accountJson account) ⟨trivial, trivial, trivial⟩

theorem unsealAccount?_sealAccount : unsealAccount? secret (sealAccount secret nonce account) = some account := by
  have hlen := length_sealedBytes secret nonce account
  rw [unsealAccount?, sealAccount_eq, Base64Url.decode?_encode, Option.bind_eq_bind, Option.bind_some,
    if_neg (by omega), take_sealedBytes, drop_sealedBytes, Gcm.decrypt?_encrypt, Option.bind_some,
    read_accountBytes, Option.bind_eq_bind, Option.bind_some, accountOfJson?_accountJson]

end Gatehouse.Session
