/-
An email address and a password as they are submitted, and what is asked of them before they are
passed on: neither may be missing, the address must be one, and the password must have a least
number of characters.
-/
import Gatehouse.Identity.Email

namespace Gatehouse

open Gatehouse.Identity Gatehouse.Text

/-- What a user submits to sign in. -/
structure Credentials where
  email : String
  password : String
  deriving DecidableEq, Repr

/-- Why credentials are not passed on. -/
inductive CredentialError where
  | missing
  | invalidEmail
  | weakPassword
  deriving DecidableEq, Repr

/-- The message of refused credentials. -/
def CredentialError.message : CredentialError → String
  | .missing => "email and password are required"
  | .invalidEmail => "email is not a valid address"
  | .weakPassword => "password is shorter than the minimum length"

/-- The least number of characters a password must have, where nothing else is set. -/
def defaultMinPasswordLength : Nat := 6

/-- The address of well-formed credentials. Passwords are measured in characters. -/
def Credentials.check (minPasswordLength : Nat) (credentials : Credentials) :
    Except CredentialError EmailAddress :=
  if isBlankText credentials.email || credentials.password.isEmpty then .error .missing
  else match EmailAddress.parse credentials.email with
    | .error _ => .error .invalidEmail
    | .ok address =>
      if credentials.password.length < minPasswordLength then .error .weakPassword else .ok address

end Gatehouse
