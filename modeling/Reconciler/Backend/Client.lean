import Reconciler.Backend.Call
import Reconciler.Failure.Report
import Reconciler.Json.Reader
import Reconciler.Session

/-!
# The backend client

Requests to a backend as its API description declares them. A request is checked against the
description before it is sent; the answer is a value for a declared status of success, and a failure
that says what went wrong for any other.
-/

namespace Reconciler

open Text (Point Points)

/-- A client of a backend. -/
structure Client where
  /-- The description of the backend. -/
  description : Description
  /-- The address in front of all paths. -/
  baseUrl : String
  /-- The credentials of requests. -/
  credentials : Option Credentials
  /-- The seconds that an answer may take. -/
  timeout : Number
  /-- Requests are logged. -/
  isVerbose : Bool

namespace Client

/-- The client of a description, at the address that the description declares unless another one is
given. -/
def ofDescription (description : Description) (baseUrl : Option String)
    (credentials : Option Credentials) (timeout : Number) (isVerbose : Bool) :
    Except Failure Client := do
  let address ←
    match baseUrl.filter fun url => !url.isEmpty with
    | some url => pure url
    | none => description.serverUrl
  pure ⟨description, Text.trimRight '/' address, credentials, timeout, isVerbose⟩

/-- The character stands for itself in a part of a path. -/
def isUnreserved (c : Char) : Bool :=
  ('a' ≤ c && c ≤ 'z') || ('A' ≤ c && c ≤ 'Z') || ('0' ≤ c && c ≤ '9') || c == '_' || c == '.' ||
    c == '-' || c == '~'

/-- The upper-case hexadecimal digit of a number below 16. -/
def hexDigit (n : Nat) : Char :=
  Char.ofNat (if n < 10 then 0x30 + n else 0x41 + n - 10)

/-- The escape of a byte. -/
def escapeByte (b : UInt8) : List Char :=
  ['%', hexDigit (b.toNat / 16), hexDigit (b.toNat % 16)]

/-- The form of a character in a part of a path. -/
def escapeChar (c : Char) : List Char :=
  if isUnreserved c then [c] else (Text.Utf8.encode (String.singleton c)).flatMap escapeByte

/-- The form of a string in a part of a path. -/
def escapeText (s : String) : String :=
  String.ofList (s.toList.flatMap escapeChar)

/-- The form of a text in a part of a path; a text without a UTF-8 form has none. -/
def escape (text : Points) : Except Failure Points :=
  match text.chars with
  | .ok cs => .ok ((cs.flatMap escapeChar).map .char)
  | .error surrogates => .error (.shape (.lone surrogates))

/-- The brace that opens the place of a parameter. -/
def opening : Point :=
  .char '\x7b'

/-- The brace that closes the place of a parameter. -/
def closing : Point :=
  .char '\x7d'

/-- The way in which the place of a parameter is written. -/
def placeOf (name : Points) : Points :=
  opening :: (name ++ [closing])

/-- The path with the values of parameters in their places, one parameter after the other. -/
def fillPath (path : Points) (parameters : List (Points × Points)) : Except Failure Points :=
  parameters.foldlM (fun path (name, value) => do
    pure (Text.replaceChars (placeOf name) (← escape value) path)) path

/-- The address for a path and the values of its parameters. -/
def url (client : Client) (path : Points) (parameters : List (Points × Points)) :
    Except Failure Points := do
  pure (.ofString client.baseUrl ++ (← fillPath path parameters))

/-- The path with the strings of parameters in their places. -/
def fillText (path : String) (parameters : Bindings) : String :=
  parameters.foldl (fun path (name, value) =>
    Text.replace ("\x7b" ++ name ++ "\x7d") (escapeText value) path) path

/-- The address for a path and strings for its parameters, which all have a UTF-8 form. -/
def address (client : Client) (path : String) (parameters : Bindings) : String :=
  client.baseUrl ++ fillText path parameters

/-- The request that goes over the wire. -/
def httpRequest (client : Client) (method path : String) (request : Request) : HttpRequest :=
  { method
    url := client.address path request.path
    query := request.query
    timeout := client.timeout
    credentials := client.credentials
    body := if carriesBody method then some request.body else none }

/-- The name of an operation. -/
def operationName (method path : String) : String :=
  method ++ " " ++ path

/-- The line that logs a request and its answer. -/
def verboseLine (sent : HttpRequest) (response : HttpResponse) : String :=
  let address := if response.url.isEmpty then sent.url else response.url
  let body := Redaction.redactValue ((sent.body.map Value.map).getD .null)
  sent.method ++ " " ++ Redaction.redactText address ++ " -> " ++ toString response.status ++
    " request=" ++ body.plain ++ " response=" ++ Redaction.redactText response.text

/-- The byte is white space. -/
def isBlankByte (b : UInt8) : Bool :=
  b == 0x20 || (0x09 ≤ b && b ≤ 0x0D)

/-- The value of an answer of success; without a body it is an empty map. -/
def decoded (response : HttpResponse) : Except Failure Value :=
  if response.body.all isBlankByte then .ok (.map [])
  else
    match Json.parse response.json with
    | .ok value => .ok value
    | .error fault => .error (.transport (.undecodable fault) (some response.status))

/-- The failure that an answer of another status reports. -/
def refused (operation : String) (response : HttpResponse) : Failure :=
  if response.status == 404 then .notFound (operation ++ ": not found")
  else
    let body :=
      match Json.parse response.json with
      | .ok value => value
      | .error _ => .null
    match BackendError.ofBody response.status body with
    | .ok (some error) => .backend error
    | .ok none =>
      .transport (.unexpectedStatus operation response.status response.text) (some response.status)
    | .error failure => failure

section

variable {ω : Type} [World ω]

/-- The answer to a request, in a span of its own; a request without an answer is a failure. -/
def exchange (operation path : String) (sent : HttpRequest) : Work ω HttpResponse := do
  let attributes : Fields :=
    [(.text "http.method", .text sent.method), (.text "http.route", .text path),
      (.text "http.url", .text (Redaction.redactText sent.url))]
  let outcome ← attempt (inSpan ("backend." ++ Text.lower sent.method) "" attributes do
    let response ← Work.wire (.send sent)
    setAttribute "http.status_code" (.int response.status)
    pure response)
  match outcome with
  | .ok response =>
    count (.callTimes .backend operation)
    pure response
  | .error (.exchange _ text) =>
    count (.calls .backend operation .error)
    count (.callTimes .backend operation)
    throw (.transport (.unanswered operation text) none)
  | .error failure =>
    count (.callTimes .backend operation)
    throw failure

/-- Sends a request that the description allows; the answer is its value. -/
def send (client : Client) (method path : String) (request : Request) : Work ω Value := do
  let method := Text.upper method
  ofExcept (client.description.validateRequest method path request.path.names request.query.names)
  let codes ← ofExcept (client.description.successCodes method path)
  if codes.isEmpty then throw (.noSuccessCode method path)
  let operation := operationName method path
  let sent := client.httpRequest method path request
  let response ← exchange operation path sent
  if client.isVerbose then log .info (verboseLine sent response)
  if codes.contains response.status then
    count (.calls .backend operation .success)
    ofExcept (decoded response)
  else
    count (.calls .backend operation .error)
    throw (refused operation response)

end

/-- The items of an answered list: the list itself, or the first list among the values of a map. -/
def firstList : Value → List Value
  | .list items => items
  | .map fields => ((Fields.values fields).findSome? Value.items?).getD []
  | .scalar _ => []

/-- The item has the wanted text under one of the names. -/
def isWanted (wanted : Bindings) (item : Value) : Bool :=
  wanted.any fun (name, text) => (item.get? name).bind Value.text? == some text

/-- What a search looks for: the values of the path parameters and of the query parameters. -/
def wantedBy (request : Request) : Bindings :=
  Bindings.merge (Bindings.merge [] request.path) request.query

section

variable {ω : Type} [World ω]

/-- The first item of the answered list with the value of a parameter of the request. -/
def findBy (client : Client) (method path : String) (request : Request) : Work ω Value := do
  let wanted := wantedBy request
  match (firstList (← client.send method path request)).find? (isWanted wanted) with
  | some item => pure item
  | none =>
    throw (.notFound ("no item found by " ++ (Value.texts (Call.sorted wanted.names)).plain ++
      " in " ++ path))

/-- Makes a resolved call. -/
def perform (client : Client) (call : Call) (request : Request) : Work ω Value :=
  match call.kind with
  | .findBy => client.findBy call.method call.path request
  | _ => client.send call.method call.path request

/-- Makes a call as it was bound to an action. -/
def performBound (client : Client) (call : BoundCall) (path : String) (request : Request) :
    Work ω Value :=
  match call with
  | .single kind => client.send kind.text path request
  | .list method => client.send method path request
  | .findBy method => client.findBy method path request

end

end Client

end Reconciler
