import Reconciler.Description.Reading
import Reconciler.Session

/-!
# Loading API descriptions

A description is named by its place: an address on the web, a file, or a file by its address. A text
of several lines is the description itself.
-/

namespace Reconciler

/-- Where an API description is found. -/
inductive Place where
  /-- On the web, under an address. -/
  | web (url : String)
  /-- In a file. -/
  | file (path : String)
  /-- In a file of this name, if there is one; the name could be an address of an unknown form. -/
  | fileIfPresent (path : String)
deriving DecidableEq, Repr

namespace Place

/-- The character may stand in front of an address, to no effect. -/
def isIgnored (c : Char) : Bool :=
  c.toNat ≤ 0x20

/-- The address without what has no effect in it. -/
def cleaned (location : String) : List Char :=
  (location.toList.dropWhile isIgnored).filter fun c => c != '\t' && c != '\r' && c != '\n'

/-- The character is a letter of the basic alphabet. -/
def isLetter (c : Char) : Bool :=
  ('a' ≤ c && c ≤ 'z') || ('A' ≤ c && c ≤ 'Z')

/-- The character may stand in a scheme. -/
def isSchemeChar (c : Char) : Bool :=
  isLetter c || ('0' ≤ c && c ≤ '9') || c == '+' || c == '-' || c == '.'

/-- The scheme of an address in lower case, empty when there is none, and what follows it. -/
def scheme (location : List Char) : String × List Char :=
  let before := location.takeWhile (· != ':')
  match location.drop before.length with
  | ':' :: rest =>
    if (before.head?.any isLetter) && before.all isSchemeChar then
      (Text.lower (String.ofList before), rest)
    else ("", location)
  | _ => ("", location)

/-- The character ends the host of an address. -/
def endsHost (c : Char) : Bool :=
  c == '/' || c == '?' || c == '#'

/-- The host in an address without its scheme, and what follows it. -/
def host : List Char → List Char × List Char
  | '/' :: '/' :: rest => (rest.takeWhile fun c => !endsHost c, rest.dropWhile fun c => !endsHost c)
  | rest => ([], rest)

/-- The path in an address without its scheme. -/
def path (rest : List Char) : List Char :=
  ((host rest).2.takeWhile (· != '#')).takeWhile (· != '?')

/-- The bytes that a text with escapes stands for. -/
def unescapedBytes : List Char → List UInt8
  | [] => []
  | '%' :: a :: b :: rest =>
    match Json.hexValue? a, Json.hexValue? b with
    | some high, some low => UInt8.ofNat (16 * high + low) :: unescapedBytes rest
    | _, _ => 0x25 :: unescapedBytes (a :: b :: rest)
  | c :: rest => Text.Utf8.encode (String.singleton c) ++ unescapedBytes rest

/-- The text that a text with escapes stands for. -/
def unescaped (cs : List Char) : String :=
  Text.Utf8.decode (unescapedBytes cs)

/-- The place that a location names. -/
def ofLocation (location : String) : Except Failure Place :=
  let (name, rest) := scheme (cleaned location)
  match Text.Host.check (host rest).1 with
  | .error fault => .error (.shape (.malformedHost fault))
  | .ok () =>
    match name with
    | "http" | "https" => .ok (.web location)
    | "file" => .ok (.file (unescaped (path rest)))
    | "" => .ok (.file location)
    | _ => .ok (.fileIfPresent location)

end Place

namespace Description

/-- The reason why an answer is no success, none when it is one. -/
def refusal? (response : HttpResponse) : Option String :=
  let side :=
    if 400 ≤ response.status && response.status < 500 then some "Client"
    else if 500 ≤ response.status && response.status < 600 then some "Server"
    else none
  side.map fun side =>
    toString response.status ++ " " ++ side ++ " Error: " ++ response.reason.getD "None" ++
      " for url: " ++ response.url

variable {ω : Type} [World ω]

/-- The bytes under an address. -/
def download (url : String) (timeout : Number) : Work ω (List UInt8) := do
  match ← attempt (Work.wire (.download url timeout)) with
  | .ok response =>
    match refusal? response with
    | some reason => ofExcept (unloadable (.unreachable url reason))
    | none => pure response.body
  | .error (.exchange _ text) => ofExcept (unloadable (.unreachable url text))
  | .error failure => throw failure

/-- The bytes of a file. -/
def readFile (path : String) : Work ω (List UInt8) := do
  match ← Work.file path with
  | .ok bytes => pure bytes
  | .error fault => ofExcept (unloadable (.unreadable path (fault.message path)))

/-- The bytes at a place. -/
def fetch (location : String) (timeout : Number) : Work ω (List UInt8) := do
  match ← ofExcept (Place.ofLocation location) with
  | .web url => download url timeout
  | .file path => readFile path
  | .fileIfPresent path =>
    if !Work.canName path then ofExcept (unloadable (.unsupported location))
    else
      match ← Work.file path with
      | .error .absent | .error .notDirectory => ofExcept (unloadable (.unsupported location))
      | _ => readFile path

/-- The description at a location, or in a text of several lines. -/
def load (source : String) (timeout : Number) : Work ω Description := do
  if source.toList.contains '\n' then ofExcept (ofText "" source)
  else
    log .debug ("Loading api description from " ++ source)
    ofExcept (ofBytes source (← fetch source timeout))

/-- The place of the loaded descriptions in a session. -/
def loaded : Cache.Slot (Session ω) Description Number where
  read := Session.descriptions
  write descriptions session := { session with descriptions }

/-- The description at a location; one that was loaded lately is kept. -/
def loadOnce (source : String) (timeout : Number) : Work ω Description := do
  let found ← Cache.getOrLoadBy loaded Work.steadyClock source do
    pure (some (← load source timeout))
  pure (found.getD default)

end Description

end Reconciler
