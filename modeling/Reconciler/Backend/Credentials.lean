import Reconciler.Failure
import Reconciler.Text.Base64

/-!
# Credentials

What a request proves its sender with, the header that carries it, and the keys by which a resource
refers to credentials.
-/

namespace Reconciler

/-- Credentials of a request. -/
inductive Credentials where
  /-- A token. -/
  | bearer (token : String)
  /-- A user name and a password. -/
  | basic (username password : String)
deriving DecidableEq, Repr

/-- The single bytes of characters below 256. -/
def narrowBytes : Nat → List Char → Except Failure (List UInt8)
  | _, [] => .ok []
  | position, c :: rest =>
    if c.toNat < 256 then
      match narrowBytes (position + 1) rest with
      | .ok bytes => .ok (UInt8.ofNat c.toNat :: bytes)
      | .error failure => .error failure
    else .error (.shape (.unencodable c position))

namespace Credentials

/-- The value of the authorization header. -/
def header : Credentials → Except Failure String
  | .bearer token => .ok ("Bearer " ++ token)
  | .basic username password => do
    let name ← narrowBytes 0 username.toList
    let secret ← narrowBytes 0 password.toList
    pure ("Basic " ++ String.ofList (Text.Base64.encode (name ++ 0x3A :: secret)))

/-- The literal of credentials, without what must stay secret. -/
def literal : Credentials → String
  | .bearer _ => "BearerAuth(token=***)"
  | .basic username _ => "BasicAuth(username=" ++ Text.quoted username ++ ")"

end Credentials

/-- A kind of credentials. -/
inductive CredentialsKind where
  /-- A user name and a password. -/
  | basic
  /-- A token. -/
  | bearer
deriving DecidableEq, Repr

namespace CredentialsKind

/-- The name of a kind of credentials. -/
def text : CredentialsKind → String
  | .basic => "basic"
  | .bearer => "bearer"

/-- What a key ends in that refers to credentials. -/
def keyEnding : List Char :=
  "AuthRef".toList

/-- What stands in a key before its ending. -/
def stem (key : String) : String :=
  match Text.cut? keyEnding key.toList with
  | some (before, _) => String.ofList before
  | none => key

/-- The kind of credentials that a key refers to. -/
def ofKey (key : String) : Except Failure CredentialsKind :=
  let name := Text.lower (stem key)
  match [basic, bearer].find? fun kind => kind.text == name with
  | some kind => .ok kind
  | none =>
    .error (.configuration (.unknownCredentials (if name.isEmpty then key else name)))

end CredentialsKind

end Reconciler
