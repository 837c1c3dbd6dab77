import Reconciler.Failure
import Reconciler.Text.Base64

/-!
# Secret values

The text of a value of a secret. A client hands out bytes or a base64 form; a text that is no base64
form of a text is taken as it is.
-/

namespace Reconciler.Secret

/-- The text that bytes encode. -/
def textOfBytes? (bytes : List UInt8) : Option String :=
  String.fromUTF8? (ByteArray.mk bytes.toArray)

/-- The text of a value given as bytes. -/
def decodeBytes (bytes : List UInt8) : Except Failure String :=
  match textOfBytes? bytes with
  | some s => .ok s
  | none => .error (.shape (.undecodable "invalid data"))

/-- The text of a value given as text. -/
def decodeText (s : String) : Except Failure String :=
  if s.toList.all fun c => c.toNat < 0x80 then
    .ok (((Text.Base64.decode? s.toList).bind textOfBytes?).getD s)
  else .error (.shape .notAscii)

/-- The text of a value. -/
def decode : Value → Except Failure String
  | .text s => decodeText s
  | .scalar (.binary bytes) => decodeBytes bytes
  | v => .error (.shape (.notText v.kind))

end Reconciler.Secret
