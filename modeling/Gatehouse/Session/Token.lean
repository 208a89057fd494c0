/-
Session tokens: header, payload and signature in base64, parted by dots. A token is read from the
right: the last part must be the text of the signature of all before it. A payload counts only after
that, an account only after the payload, and the window last. A token that does not hold now counts
for no session, and only the reason is logged.
-/
import Gatehouse.Log.Event
import Gatehouse.Session.Claims
import Gatehouse.Session.Header
import Gatehouse.Session.SealedAccount
import Gatehouse.Text.Basic

namespace Gatehouse.Session

open Gatehouse.Text Gatehouse.Identity Gatehouse.Log Gatehouse.Time
open Gatehouse.Json (Syntax Value)

/-- Why a token is refused or cannot be issued. -/
inductive TokenError where
  | invalidSecret
  | malformed
  | signature
  | window (cause : WindowError)
  | account
  deriving DecidableEq, Repr

/-- The message of a refused token. -/
def TokenError.message : TokenError → String
  | .invalidSecret => "signing secret is empty"
  | .malformed => "malformed token"
  | .signature => "token signature does not verify"
  | .window w => w.message
  | .account => "provider account could not be sealed or unsealed"

/-! ## The payload -/

/-- Whom session tokens are for. -/
def audience : String := "dashgate.session"

/-- The payload of claims: their members, the audience and the sealed account, if there is one. -/
def payloadJson (claims : SessionClaims) (blob : Option String) : Value :=
  .object (claims.members ++ ("aud", .text audience) ::
    (match blob with
     | none => []
     | some s => [("prv", .text s)]))

/-- The members of a payload that may stand in it only once. -/
def payloadMembers : List String :=
  ["sub", "email", "name", "organization_id", "role", "onboarding_completed", "iat", "exp", "aud",
   "prv", "nbf", "iss"]

/-- An organization's id, which may be absent or `null`. -/
def optionalId? (v : Option Syntax) : Option (Option Uuid) := do
  match ← Json.optionalText? v with
  | none => return none
  | some s => return some (← (Uuid.parse s).toOption)

/-- A whole second that has a date. -/
def second? (v : Option Syntax) : Option Instant := (Json.requiredInteger? v).bind Instant.ofSeconds?

/-- A list or an object that is not empty. -/
def isNonEmptyContainer : Option Syntax → Bool
  | some (.list items) => !items.isEmpty
  | some (.object members) => !members.isEmpty
  | _ => false

/-- The claims that the members of a payload make, and the sealed account. -/
def claimsOfMembers? (members : List (Option String × Syntax)) :
    Option (SessionClaims × Option String) := do
  match ← Json.namedMembers? payloadMembers members with
  | [sub, email, name, organization, role, onboarded, iat, exp, aud, prv, nbf, _] =>
    let claims : SessionClaims :=
      { subject := ← (Uuid.parse (← Json.requiredText? sub)).toOption
        email := ← Json.requiredText? email
        name := ← Json.requiredText? name
        organizationId := ← optionalId? organization
        role := ⟨← Json.requiredText? role⟩
        onboarded := ← Json.requiredBool? onboarded
        issuedAt := ← second? iat
        expiresAt := ← second? exp
        provider := none }
    let blob ← Json.optionalText? prv
    if (← Json.requiredText? aud) = audience ∧ 0 ≤ claims.expiresAt.seconds ∧
        isNonEmptyContainer nbf = false then
      some (claims, blob)
    else none
  | _ => none

/-- The claims of a payload, and the sealed account. All of a payload must be readable. -/
def claimsOfPayload? (bytes : List UInt8) : Option (SessionClaims × Option String) := do
  let s ← Syntax.read bytes
  match s with
  | .object members => if s.isReadable Json.maxDepth then claimsOfMembers? members else none
  | _ => none

/-! ## Tokens -/

/-- The text before the last of a character, and the text after it. -/
def splitLast? (mark : Char) (cs : List Char) : Option (List Char × List Char) :=
  let after := (cs.reverse.takeWhile (· != mark)).reverse
  if after.length = cs.length then none else some (cs.take (cs.length - after.length - 1), after)

/-- The three parts of a token. -/
structure TokenParts where
  header : List Char
  payload : List Char
  signature : List Char
  deriving DecidableEq, Repr

/-- The parts of a text that has at least two dots, cut at the last two. -/
def TokenParts.of? (token : List Char) : Option TokenParts := do
  let (message, signature) ← splitLast? '.' token
  let (header, payload) ← splitLast? '.' message
  return ⟨header, payload, signature⟩

/-- What is signed of a token. -/
def TokenParts.message (parts : TokenParts) : List Char := parts.header ++ '.' :: parts.payload

/-- A JSON value as a part of a token. -/
def encodePart (v : Value) : List Char := Base64Url.encode (utf8Bytes v.write)

/-- The token of claims; the nonce seals the provider account, if there is one. -/
def encodeToken (secret : SigningSecret) (nonce : Nonce) (claims : SessionClaims) : String :=
  let blob := claims.provider.map fun account => String.ofList (sealAccount secret nonce account)
  let message := encodePart headerJson ++ '.' :: encodePart (payloadJson claims blob)
  String.ofList (message ++ '.' :: secret.sign message)

/-- A part of a token that holds a header. -/
def isHeaderPart (part : List Char) : Bool :=
  ((Base64Url.decode? part).bind Syntax.read).any isHeader

/-- The claims of a token, with its account but without regard to the time. -/
def decodeToken (secret : SigningSecret) (token : String) : Except TokenError SessionClaims :=
  if isBlankText token then .error .malformed
  else match TokenParts.of? token.toList with
    | none => .error .malformed
    | some parts =>
      if !isHeaderPart parts.header then .error .malformed
      else if parts.signature ≠ secret.sign parts.message then .error .signature
      else match (Base64Url.decode? parts.payload).bind claimsOfPayload? with
        | none => .error .malformed
        | some (claims, none) => .ok claims
        | some (claims, some blob) =>
          match unsealAccount? secret blob.toList with
          | none => .error .account
          | some account => .ok { claims with provider := some account }

/-- The claims of a token that hold now. -/
def readToken (secret : SigningSecret) (token : String) (now : Instant) :
    Except TokenError SessionClaims := do
  let claims ← decodeToken secret token
  (claims.checkWindow now).mapError .window
  return claims

/-- A token and what it says. -/
structure IssuedSession where
  token : String
  claims : SessionClaims
  deriving DecidableEq, Repr

/-- A session issued for an identity, for a lifetime that begins now. -/
def issueSession (secret : SigningSecret) (nonce : Nonce) (identity : Identity)
    (provider : Option ProviderAccount) (lifetime : Span) (now : Instant) :
    Except TokenError IssuedSession := do
  let claims ← (SessionClaims.build identity provider now lifetime).mapError .window
  return ⟨encodeToken secret nonce claims, claims⟩

/-! ## The session of a request -/

/-- A token was refused. -/
def tokenDiscarded (e : TokenError) : Event :=
  ⟨.debug, "discarding invalid session token", [("error", .text e.message)]⟩

/-- The session of a token that holds now, if there is a token and it does. -/
def currentSession (secret : SigningSecret) (token : Option String) (now : Instant) :
    Logged (Option SessionClaims) :=
  match token with
  | none => .silent none
  | some token =>
    match readToken secret token now with
    | .ok claims => .silent (some claims)
    | .error e => ⟨none, [tokenDiscarded e]⟩

end Gatehouse.Session
