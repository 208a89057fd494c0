/-
What unsealing makes of any text. It never cuts bytes where there are none, and it gives an account or
the error `.account`; an account comes only of the base64 of a nonce, of encrypted JSON that describes the account,
and of the tag of both under the secret's key. Change the tag, and nothing else, and nothing is unsealed.
-/
import Gatehouse.Proofs.Except
import Gatehouse.Proofs.Session.SealedAccount
import Gatehouse.Session.Token

namespace Gatehouse.Session

open Gatehouse.Text Gatehouse.Crypto Gatehouse.Identity
open Gatehouse.Json (Syntax)

/-! ## Cuts -/

/-- Bytes were to be cut at a place that lies beyond their end. -/
structure CutFault where
  place : Nat
  length : Nat

/-- The bytes before a place and those from it on; a place beyond the end is a fault. -/
def cut (place : Nat) (bytes : List UInt8) : Except CutFault (List UInt8 × List UInt8) :=
  if place ≤ bytes.length then .ok (bytes.take place, bytes.drop place) else .error ⟨place, bytes.length⟩

theorem cut_of_le {place : Nat} {bytes : List UInt8} (h : place ≤ bytes.length) :
    cut place bytes = .ok (bytes.take place, bytes.drop place) := if_pos h

/-- The bytes as a nonce, if they are twelve. -/
def Nonce.ofBytes? (bytes : List UInt8) : Option Nonce := if h : bytes.length = 12 then some ⟨bytes, h⟩ else none

theorem Nonce.ofBytes?_bytes (nonce : Nonce) : Nonce.ofBytes? nonce.bytes = some nonce := dif_pos nonce.length_bytes

/-- The account that encrypted bytes with a tag hold, or the error. -/
def openAccount (secret : SigningSecret) (nonce : Nonce) (bytes : List UInt8) : Except TokenError ProviderAccount :=
  match Gcm.decrypt? secret.accountKey nonce.bytes bytes with
  | none => .error .account
  | some text =>
    match (Syntax.read text).bind accountOfJson? with
    | none => .error .account
    | some account => .ok account

/-- Unsealing in steps, in which a fault of a cut is told apart from what it gives. -/
def unsealInSteps (secret : SigningSecret) (blob : List Char) :
    Except CutFault (Except TokenError ProviderAccount) :=
  match Base64Url.decode? blob with
  | none => .ok (.error .account)
  | some bytes =>
    if bytes.length < 12 then .ok (.error .account)
    else do
      let (front, rest) ← cut 12 bytes
      match Nonce.ofBytes? front with
      | none => return .error .account
      | some nonce => return openAccount secret nonce rest

/-- What unsealing gives: the account, or the error that a token with such a part is refused for. -/
def unsealed (secret : SigningSecret) (blob : List Char) : Except TokenError ProviderAccount :=
  match unsealAccount? secret blob with
  | none => .error .account
  | some account => .ok account

variable {secret : SigningSecret} {blob : List Char}

theorem unsealed_eq_error_iff : unsealed secret blob = .error .account ↔ unsealAccount? secret blob = none := by
  unfold unsealed
  cases unsealAccount? secret blob <;> simp

/-- A text is no base64, or that of less than a nonce, or that of a nonce and what follows it. -/
theorem blob_cases (blob : List Char) :
    Base64Url.decode? blob = none ∨ (∃ bytes, Base64Url.decode? blob = some bytes ∧ bytes.length < 12) ∨
      ∃ (nonce : Nonce) (rest : List UInt8), Base64Url.decode? blob = some (nonce.bytes ++ rest) := by
  cases hbytes : Base64Url.decode? blob with
  | none => exact .inl rfl
  | some bytes =>
    rcases Nat.lt_or_ge bytes.length 12 with hshort | hlong
    · exact .inr (.inl ⟨bytes, rfl, hshort⟩)
    · have hfront : (bytes.take 12).length = 12 := List.length_take_of_le hlong
      exact .inr (.inr ⟨⟨bytes.take 12, hfront⟩, bytes.drop 12, by rw [List.take_append_drop]⟩)

theorem unsealed_of_decode?_none (h : Base64Url.decode? blob = none) : unsealed secret blob = .error .account := by
  rw [unsealed_eq_error_iff, unsealAccount?, h]
  rfl

theorem unsealed_of_short {bytes : List UInt8} (h : Base64Url.decode? blob = some bytes) (hshort : bytes.length < 12) :
    unsealed secret blob = .error .account := by
  rw [unsealed_eq_error_iff, unsealAccount?, h]
  exact if_pos hshort

theorem not_length_append_lt (nonce : Nonce) (rest : List UInt8) : ¬ (nonce.bytes ++ rest).length < 12 := by
  rw [List.length_append, nonce.length_bytes]
  omega

theorem unsealed_of_decode? {nonce : Nonce} {rest : List UInt8} (h : Base64Url.decode? blob = some (nonce.bytes ++ rest)) :
    unsealed secret blob = openAccount secret nonce rest := by
  unfold unsealed unsealAccount? openAccount
  rw [h, Option.bind_eq_bind, Option.bind_some, if_neg (not_length_append_lt nonce rest),
    List.take_left' nonce.length_bytes, List.drop_left' nonce.length_bytes]
  cases Gcm.decrypt? secret.accountKey nonce.bytes rest <;> rfl

theorem unsealInSteps_eq (secret : SigningSecret) (blob : List Char) :
    unsealInSteps secret blob = .ok (unsealed secret blob) := by
  unfold unsealInSteps
  rcases blob_cases blob with h | ⟨bytes, h, hshort⟩ | ⟨nonce, rest, h⟩
  · rw [h, unsealed_of_decode?_none h]
  · rw [h, unsealed_of_short h hshort]
    exact if_pos hshort
  · have hcut : cut 12 (nonce.bytes ++ rest) = .ok (nonce.bytes, rest) := by
      rw [cut_of_le (Nat.not_lt.1 (not_length_append_lt nonce rest)), List.take_left' nonce.length_bytes,
        List.drop_left' nonce.length_bytes]
    rw [h, unsealed_of_decode? h]
    simp only [if_neg (not_length_append_lt nonce rest), bind_eq_ok_iff]
    refine ⟨(nonce.bytes, rest), hcut, ?_⟩
    simp only [Nonce.ofBytes?_bytes]
    rfl

/-! ## Sealed forms -/

/-- The text is a sealed form of the account: the base64 of a nonce, of encrypted bytes and of the tag of these under
the nonce and the secret's key; the bytes are those of a JSON value that describes the account. -/
def IsSealedForm (secret : SigningSecret) (account : ProviderAccount) (blob : List Char) : Prop :=
  ∃ (nonce : Nonce) (encrypted : List UInt8) (json : Syntax),
    blob = Base64Url.encode
      (nonce.bytes ++ (encrypted ++ Gcm.tag (Aes.roundKeys secret.accountKey) nonce.bytes encrypted)) ∧
    Syntax.read (Gcm.addStream (Aes.roundKeys secret.accountKey) nonce.bytes 2 encrypted) = some json ∧
    accountOfJson? json = some account

theorem openAccount_eq_ok_iff {nonce : Nonce} {bytes : List UInt8} {account : ProviderAccount} :
    openAccount secret nonce bytes = .ok account ↔
      ∃ text json, Gcm.decrypt? secret.accountKey nonce.bytes bytes = some text ∧ Syntax.read text = some json ∧
        accountOfJson? json = some account := by
  unfold openAccount
  constructor
  · intro h
    cases htext : Gcm.decrypt? secret.accountKey nonce.bytes bytes with
    | none =>
      rw [htext] at h
      cases h
    | some text =>
      cases hjson : (Syntax.read text).bind accountOfJson? with
      | none =>
        rw [htext] at h
        simp only [hjson] at h
        cases h
      | some found =>
        rw [htext] at h
        simp only [hjson] at h
        cases h
        obtain ⟨json, hread, haccount⟩ := Option.bind_eq_some_iff.1 hjson
        exact ⟨text, json, rfl, hread, haccount⟩
  · rintro ⟨text, json, htext, hread, haccount⟩
    simp only [htext, hread, Option.bind_some, haccount]

theorem unsealed_eq_ok_iff_isSealedForm {account : ProviderAccount} :
    unsealed secret blob = .ok account ↔ IsSealedForm secret account blob := by
  constructor
  · intro h
    rcases blob_cases blob with hblob | ⟨bytes, hblob, hshort⟩ | ⟨nonce, rest, hblob⟩
    · rw [unsealed_of_decode?_none hblob] at h
      cases h
    · rw [unsealed_of_short hblob hshort] at h
      cases h
    · rw [unsealed_of_decode? hblob, openAccount_eq_ok_iff] at h
      obtain ⟨text, json, htext, hread, haccount⟩ := h
      obtain ⟨encrypted, rfl, rfl⟩ := Gcm.decrypt?_eq_some_iff.1 htext
      exact ⟨nonce, encrypted, json, Base64Url.decode?_eq_some_iff.1 hblob, hread, haccount⟩
  · rintro ⟨nonce, encrypted, json, rfl, hread, haccount⟩
    rw [unsealed_of_decode? (Base64Url.decode?_encode _), openAccount_eq_ok_iff]
    exact ⟨_, json, Gcm.decrypt?_eq_some_iff.2 ⟨encrypted, rfl, rfl⟩, hread, haccount⟩

theorem unsealed_cases (secret : SigningSecret) (blob : List Char) :
    unsealed secret blob = .error .account ∨ ∃ account, unsealed secret blob = .ok account := by
  unfold unsealed
  cases unsealAccount? secret blob with
  | none => exact .inl rfl
  | some account => exact .inr ⟨account, rfl⟩

theorem unsealed_of_forall (h : ∀ account, ¬ IsSealedForm secret account blob) :
    unsealed secret blob = .error .account := by
  rcases unsealed_cases secret blob with herror | ⟨account, hok⟩
  · exact herror
  · exact absurd (unsealed_eq_ok_iff_isSealedForm.1 hok) (h account)

theorem le_length_of_isSealedForm {account : ProviderAccount} {bytes : List UInt8} (h : IsSealedForm secret account blob)
    (hbytes : Base64Url.decode? blob = some bytes) : 28 ≤ bytes.length := by
  obtain ⟨nonce, encrypted, json, rfl, -, -⟩ := h
  rw [Base64Url.decode?_encode] at hbytes
  cases hbytes
  simp only [List.length_append, nonce.length_bytes, Gcm.length_tag, Gcm.tagLength]
  omega

/-- The last 16 bytes of a sealed form are the tag of those before them. -/
theorem of_isSealedForm_append {account : ProviderAccount} {body tag : List UInt8} (htag : tag.length = 16)
    (h : IsSealedForm secret account (Base64Url.encode (body ++ tag))) :
    ∃ (nonce : Nonce) (encrypted : List UInt8), body = nonce.bytes ++ encrypted ∧
      tag = Gcm.tag (Aes.roundKeys secret.accountKey) nonce.bytes encrypted := by
  obtain ⟨nonce, encrypted, json, hblob, -, -⟩ := h
  have hbytes := Base64Url.decode?_encode (body ++ tag)
  rw [hblob, Base64Url.decode?_encode, Option.some_inj, ← List.append_assoc] at hbytes
  have hlen : (Gcm.tag (Aes.roundKeys secret.accountKey) nonce.bytes encrypted).length = tag.length := by
    rw [Gcm.length_tag, htag, Gcm.tagLength]
  obtain ⟨hbody, htags⟩ := List.append_inj' hbytes hlen
  exact ⟨nonce, encrypted, hbody.symm, htags.symm⟩

theorem tag_unique {account account' : ProviderAccount} {body tag tag' : List UInt8} (htag : tag.length = 16)
    (htag' : tag'.length = 16) (h : IsSealedForm secret account (Base64Url.encode (body ++ tag)))
    (h' : IsSealedForm secret account' (Base64Url.encode (body ++ tag'))) : tag = tag' := by
  obtain ⟨nonce, encrypted, hbody, htag⟩ := of_isSealedForm_append htag h
  obtain ⟨nonce', encrypted', hbody', htag'⟩ := of_isSealedForm_append htag' h'
  obtain ⟨hnonce, hencrypted⟩ := List.append_inj (hbody.symm.trans hbody') (by rw [nonce.length_bytes, nonce'.length_bytes])
  rw [htag, htag', hnonce, hencrypted]

/-- For every text `b`, `unsealInSteps` meets no `CutFault` and gives what `unsealed` gives: an account, or `.account`
as the error. It gives `account` exactly if `b` `IsSealedForm` of it: the base64 of a nonce, of encrypted bytes and of
their tag, which decrypt to JSON of the account. So it gives `.account` for fewer than 28 bytes, for a text with `=`,
for one that `HasSpareBits`, and for a sealed form with any 16 other bytes in the place of its tag. -/
theorem unsealing_exact (secret : SigningSecret) (b : String) :
    (unsealInSteps secret b.toList = .ok (.error .account) ∨
      ∃ account, unsealInSteps secret b.toList = .ok (.ok account)) ∧
    unsealInSteps secret b.toList = .ok (unsealed secret b.toList) ∧
    (∀ account, unsealed secret b.toList = .ok account ↔ IsSealedForm secret account b.toList) ∧
    (∀ bytes, Base64Url.decode? b.toList = some bytes → bytes.length < 28 →
      unsealed secret b.toList = .error .account) ∧
    ('=' ∈ b.toList → unsealed secret b.toList = .error .account) ∧
    (Base64Url.HasSpareBits b.toList → unsealed secret b.toList = .error .account) ∧
    ∀ (body tag tag' : List UInt8) (account : ProviderAccount), tag.length = 16 → tag'.length = 16 → tag' ≠ tag →
      unsealed secret (Base64Url.encode (body ++ tag)) = .ok account → b.toList = Base64Url.encode (body ++ tag') →
      unsealed secret b.toList = .error .account := by
  refine ⟨?_, unsealInSteps_eq secret _, fun _ => unsealed_eq_ok_iff_isSealedForm, ?_, ?_, ?_, ?_⟩
  · rw [unsealInSteps_eq]
    rcases unsealed_cases secret b.toList with h | ⟨account, h⟩
    · exact .inl (by rw [h])
    · exact .inr ⟨account, by rw [h]⟩
  · intro bytes hbytes hshort
    apply unsealed_of_forall
    intro account h
    have := le_length_of_isSealedForm h hbytes
    omega
  · intro hpadded
    exact unsealed_of_decode?_none (Base64Url.decode?_of_not_isDigit hpadded (by decide))
  · intro hspare
    exact unsealed_of_decode?_none (Base64Url.decode?_of_hasSpareBits hspare)
  · intro body tag tag' account htag htag' hne hok hb
    apply unsealed_of_forall
    intro account' h'
    rw [hb] at h'
    exact hne (tag_unique htag' htag h' (unsealed_eq_ok_iff_isSealedForm.1 hok))

end Gatehouse.Session
