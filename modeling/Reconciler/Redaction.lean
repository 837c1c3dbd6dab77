import Reconciler.Failure
import Reconciler.Text.Case

/-!
# Redaction of credentials

Masks for credentials in free text and in untyped values. Free text is swept four times: for
authorization headers, for user names and passwords in addresses, for query parameters, and for
assignments to a credential's name. In a value, what stands under a credential's name is masked as a
whole.
-/

namespace Reconciler.Redaction

/-- What stands in the place of a credential. -/
def mask : String :=
  "[REDACTED]"

/-- The names that announce a credential. -/
def credentialNames : List String :=
  ["password", "secret", "token", "credential", "apikey", "api_key", "authorization"]

/-- The key names a credential. -/
def isCredentialKey (key : String) : Bool :=
  let name := String.ofList ((Text.lower key).toList.map fun c => if c == '-' then '_' else c)
  credentialNames.any (Text.contains name)

/-- The character that stands for a character when letter case does not matter. -/
def foldChar (c : Char) : Char :=
  if c.toNat == 0x17F then 's'
  else if c.toNat == 0x130 || c.toNat == 0x131 then 'i'
  else Text.lowerChar c

/-- A part of the text that was recognised, and the text after it. -/
abbrev Recognised := Option (List Char × List Char)

/-- Recognises a lower-case word in any letter case. -/
def word : List Char → List Char → Recognised
  | [], cs => some ([], cs)
  | w :: ws, c :: cs => if foldChar c == w then (word ws cs).map fun (a, b) => (c :: a, b) else none
  | _ :: _, [] => none

/-- Recognises the first of several words that stands at the start. -/
def oneOf (words : List String) (cs : List Char) : Recognised :=
  words.findSome? fun w => word w.toList cs

/-- Recognises one character of a class. -/
def one (accepts : Char → Bool) : List Char → Recognised
  | c :: cs => if accepts c then some ([c], cs) else none
  | [] => none

/-- Recognises one character of a class where there is one. -/
def optional (accepts : Char → Bool) (cs : List Char) : Recognised :=
  some ((one accepts cs).getD ([], cs))

/-- Recognises as many characters of a class as there are. -/
def many (accepts : Char → Bool) (cs : List Char) : Recognised :=
  some (cs.takeWhile accepts, cs.dropWhile accepts)

/-- Recognises as many characters of a class as there are, and at least one. -/
def some_ (accepts : Char → Bool) (cs : List Char) : Recognised :=
  if (cs.takeWhile accepts).isEmpty then none else many accepts cs

/-- Recognises one part after another. -/
def sequence : List (List Char → Recognised) → List Char → Recognised
  | [], cs => some ([], cs)
  | part :: parts, cs => do
    let (a, rest) ← part cs
    let (b, rest) ← sequence parts rest
    pure (a ++ b, rest)

/-- Recognises a text between double quotes. -/
def quotedText : List Char → Recognised
  | '"' :: cs =>
    match cs.dropWhile (· != '"') with
    | q :: rest => some ('"' :: cs.takeWhile (· != '"') ++ [q], rest)
    | [] => none
  | _ => none

/-- The character is a quote of either kind. -/
def isQuote (c : Char) : Bool :=
  c == '"' || c == Text.singleQuote

/-- The character separates a name from its value. -/
def isSeparator (c : Char) : Bool :=
  c == ':' || c == '='

/-- The character is none of the listed ones, and no white space. -/
def isNone (excluded : String) (c : Char) : Bool :=
  !Text.isBlank c && !excluded.toList.contains c

/-- A rule: what a match at the start is replaced by, and the length of the match. -/
abbrev Rule := List Char → Option (List Char × Nat)

/-- The rule that keeps a head, writes an ending in the place of a tail, and needs both. -/
def keepHead (head tail : List Char → Recognised) (ending : String) : Rule := fun cs => do
  let (kept, rest) ← head cs
  let (masked, _) ← tail rest
  pure (kept ++ ending.toList, kept.length + masked.length)

/-- The credentials of an authorization header. -/
def header : Rule :=
  keepHead
    (sequence
      [word "authorization".toList, optional isQuote, many Text.isBlank, one isSeparator,
        many Text.isBlank, optional isQuote, oneOf ["basic", "bearer"]])
    (sequence [some_ Text.isBlank, some_ fun c => isNone ",;)\"" c && c != Text.singleQuote])
    (" " ++ mask)

/-- The user name and password in an address. -/
def userInfo : Rule :=
  keepHead
    (sequence
      [word "http".toList, optional fun c => foldChar c == 's', word "://".toList])
    (sequence [some_ (isNone "/:@"), one (· == ':'), some_ (isNone "/@"), one (· == '@')])
    (mask ++ "@")

/-- The value of a query parameter that is named like a credential. -/
def query : Rule :=
  keepHead
    (sequence [one fun c => c == '?' || c == '&', oneOf credentialNames, one (· == '=')])
    (some_ (isNone "&#"))
    mask

/-- The value that is assigned to a credential's name. -/
def assignment : Rule :=
  keepHead
    (sequence
      [optional (· == '"'), oneOf credentialNames, optional (· == '"'), many Text.isBlank,
        one isSeparator, many Text.isBlank])
    (fun cs => (quotedText cs).orElse fun _ => some_ (isNone ",;)\x7d") cs)
    mask

/-- The text with every match of a rule replaced, from left to right; the first argument counts the
characters that still belong to the last match. -/
def sweep (rule : Rule) : Nat → List Char → List Char
  | _, [] => []
  | inside + 1, _ :: rest => sweep rule inside rest
  | 0, c :: rest =>
    match rule (c :: rest) with
    | some (replacement, length) => replacement ++ sweep rule (length - 1) rest
    | none => c :: sweep rule 0 rest

/-- The text with its credentials masked. -/
def redactChars (cs : List Char) : List Char :=
  sweep assignment 0 (sweep query 0 (sweep userInfo 0 (sweep header 0 cs)))

/-- The text with its credentials masked. -/
def redactText (s : String) : String :=
  String.ofList (redactChars s.toList)

mutual

/-- The value with masks under credential keys and in its texts. -/
def redactValue : Value → Value
  | .scalar (.text s) => .text (redactText s)
  | .scalar s => .scalar s
  | .list items => .list (redactItems items)
  | .map entries => .map (redactEntries entries)

/-- The items with masks. -/
def redactItems : List Value → List Value
  | [] => []
  | v :: rest => redactValue v :: redactItems rest

/-- The entries with masks. -/
def redactEntries : List (Scalar × Value) → List (Scalar × Value)
  | [] => []
  | (k, v) :: rest =>
    let value :=
      match k with
      | .text name => if isCredentialKey name then .text mask else redactValue v
      | _ => redactValue v
    (k, value) :: redactEntries rest

end

end Redaction

/-- The message of a failure with its credentials masked. -/
def Failure.sanitized (failure : Failure) : String :=
  Redaction.redactText failure.message

end Reconciler
