/-
The header of a token. Tokens are written with a fixed header. One that is read may have any of the
registered parameters, each of its own type, and must name the algorithm HS256; unknown parameters
are passed over.
-/
import Gatehouse.Json.Record
import Gatehouse.Json.Value

namespace Gatehouse.Session

open Gatehouse.Json (Syntax Value)

/-- The algorithm that tokens are signed with. -/
def signingAlgorithm : String := "HS256"

/-- The header that tokens are written with. -/
def headerJson : Value := .object [("typ", .text "JWT"), ("alg", .text signingAlgorithm)]

/-! ## Named choices -/

/-- The name of a choice: a text, or an object whose only member has that name and the value
`null`; where `orEmpty` is set, an empty object will do for its value. -/
def choice? (orEmpty : Bool) : Syntax → Option String
  | .text s => some s
  | .object [(some name, .null)] => some name
  | .object [(some name, .object [])] => if orEmpty then some name else none
  | _ => none

/-- The field holds one of the names. -/
def isChoice (names : List String) : Option Syntax → Bool
  | some v => ((choice? false v).any names.contains)
  | none => false

/-- The field is a text. -/
def isText (v : Option Syntax) : Bool := (Json.requiredText? v).isSome

/-- The field is absent, `null` or a text. -/
def isOptionalText (v : Option Syntax) : Bool := (Json.optionalText? v).isSome

/-- The field is absent, `null` or a list of texts. -/
def isOptionalTextList (v : Option Syntax) : Bool := (Json.optionalTextList? v).isSome

/-! ## Keys -/

/-- The algorithms that a key may be meant for. -/
def keyAlgorithms : List String :=
  ["HS256", "HS384", "HS512", "ES256", "ES384", "RS256", "RS384", "RS512", "PS256", "PS384", "PS512",
   "EdDSA", "RSA1_5", "RSA-OAEP", "RSA-OAEP-256"]

/-- The field is absent, `null` or the name of an algorithm for keys. -/
def isOptionalAlgorithm : Option Syntax → Bool
  | none => true
  | some .null => true
  | some v => (choice? true v).any keyAlgorithms.contains

/-- The curves of elliptic keys. -/
def curves : List String := ["P-256", "P-384", "P-521", "Ed25519"]

/-- The parameters that every kind of key may have. -/
def hasCommonParameters (members : List (Option String × Syntax)) : Bool :=
  match Json.namedMembers? ["use", "key_ops", "alg", "kid", "x5u", "x5c", "x5t", "x5t#S256"] members with
  | some [use, operations, algorithm, id, url, chain, thumbprint, thumbprint256] =>
    isOptionalText use && isOptionalTextList operations && isOptionalAlgorithm algorithm &&
      isOptionalText id && isOptionalText url && isOptionalTextList chain &&
      isOptionalText thumbprint && isOptionalText thumbprint256
  | _ => false

/-- The parameters of an elliptic key: a curve and a point. -/
def isEllipticKey (members : List (Option String × Syntax)) : Bool :=
  match Json.namedMembers? ["kty", "crv", "x", "y"] members with
  | some [kind, curve, x, y] => isChoice ["EC"] kind && isChoice curves curve && isText x && isText y
  | _ => false

/-- The parameters of an RSA key: a modulus and an exponent. -/
def isRsaKey (members : List (Option String × Syntax)) : Bool :=
  match Json.namedMembers? ["kty", "n", "e"] members with
  | some [kind, n, e] => isChoice ["RSA"] kind && isText n && isText e
  | _ => false

/-- The parameters of a symmetric key: its bytes. -/
def isOctetKey (members : List (Option String × Syntax)) : Bool :=
  match Json.namedMembers? ["kty", "k"] members with
  | some [kind, k] => isChoice ["oct"] kind && isText k
  | _ => false

/-- The parameters of a pair of octet keys: a curve and the public one. -/
def isOctetPair (members : List (Option String × Syntax)) : Bool :=
  match Json.namedMembers? ["kty", "crv", "x"] members with
  | some [kind, curve, x] => isChoice ["OKP"] kind && isChoice curves curve && isText x
  | _ => false

/-- The field is absent, `null` or a key. A key is kept whole, one level below the
header, so all of it must be readable. -/
def isOptionalKey : Option Syntax → Bool
  | none => true
  | some .null => true
  | some (.object members) =>
    (Syntax.object members).isReadable (Json.maxDepth - 1) && hasCommonParameters members &&
      (isEllipticKey members || isRsaKey members || isOctetKey members || isOctetPair members)
  | some _ => false

/-! ## Headers -/

/-- The parameters of a header. -/
def headerParameters : List String :=
  ["typ", "alg", "cty", "jku", "jwk", "kid", "x5u", "x5c", "x5t", "x5t#S256"]

/-- A header whose parameters are well typed and which names the algorithm. -/
def isHeader (s : Syntax) : Bool :=
  match s.fields? headerParameters headerParameters.length with
  | some [type, algorithm, contentType, keyUrl, key, keyId, url, chain, thumbprint, thumbprint256] =>
    isOptionalText type && isChoice [signingAlgorithm] algorithm && isOptionalText contentType &&
      isOptionalText keyUrl && isOptionalKey key && isOptionalText keyId && isOptionalText url &&
      isOptionalTextList chain && isOptionalText thumbprint && isOptionalText thumbprint256
  | _ => false

end Gatehouse.Session
