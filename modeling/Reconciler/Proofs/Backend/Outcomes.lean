import Reconciler.Backend.Client
import Reconciler.Proofs.Session.Frame

/-!
# What becomes of a request

The outcome over the wire decides what an allowed request answers: a value for a declared status of
success, and a failure of a known kind for anything else.  One answer escapes the scheme.  A structured
error states two numbers, and an infinite one has no whole part; that is a failure of arithmetic, not one
of the backend.
-/

namespace Reconciler

/-! ## The numbers of a structured error -/

/-- The value is a number without an end. -/
def Value.IsInfinite : Value → Prop
  | .float x => ∃ negative, Decimal.read x = .infinite negative
  | _ => False

theorem Value.whole_eq_infiniteWhole_iff {value : Value} :
    value.whole = .error (.shape .infiniteWhole) ↔ value.IsInfinite := by
  cases value with
  | list items => simp [whole, IsInfinite]
  | map entries => simp [whole, IsInfinite]
  | scalar s =>
      cases s with
      | float x =>
          unfold whole IsInfinite
          cases reading : Decimal.read x <;> simp [reading]
      | text s =>
          unfold whole IsInfinite
          cases reading : wholeOfText? s <;> simp [reading]
      | _ => simp [whole, IsInfinite]

theorem Value.not_isBlank_of_isInfinite {value : Value} (infinite : value.IsInfinite) :
    value.isBlank = false := by
  cases value with
  | scalar s =>
      cases s with
      | float x =>
          obtain ⟨negative, reading⟩ := infinite
          cases negative <;>
            simp [isBlank, Scalar.isBlank, Decimal.equalInt, reading, Decimal.Reading.compare?]
      | _ => exact infinite.elim
  | _ => exact infinite.elim

namespace BackendError

variable {fields : Fields} {name : String} {body : Value} {status : Int}

/-- The map has an infinite number under a name. -/
def HasInfinite (fields : Fields) (name : String) : Prop :=
  ∃ value, fields.get? name = some value ∧ value.IsInfinite

theorem number_eq_infiniteWhole_iff :
    number fields name = .error (.shape .infiniteWhole) ↔ HasInfinite fields name := by
  rw [number, Value.whole_eq_infiniteWhole_iff]
  constructor
  · intro infinite
    cases found : fields.get? name with
    | none => simp [found, Value.orElse, Value.isBlank, Scalar.isBlank, Value.IsInfinite] at infinite
    | some value =>
        rw [found, Option.getD_some, Value.orElse] at infinite
        split at infinite
        · exact infinite.elim
        · exact ⟨value, found, infinite⟩
  · rintro ⟨value, found, infinite⟩
    simpa [found, Value.orElse, Value.not_isBlank_of_isInfinite infinite] using infinite

/-- The numbers of the map are read in order until one is infinite. -/
theorem numbers_eq_infiniteWhole_iff :
    (do
      let code ← number fields "errorCode"
      let event ← number fields "eventId"
      pure (code, event)) = (.error (.shape .infiniteWhole) : Except Failure (Int × Int)) ↔
      HasInfinite fields "errorCode" ∨
        (∃ code, number fields "errorCode" = .ok code) ∧ HasInfinite fields "eventId" := by
  rw [← number_eq_infiniteWhole_iff, ← number_eq_infiniteWhole_iff]
  cases number fields "errorCode" <;> cases number fields "eventId" <;>
    simp [bind, Except.bind, pure, Except.pure]

/-- The body is a map with a text for a message, and reading its numbers comes upon an infinite one. -/
def Overflows : Value → Prop
  | .map fields =>
    (∃ text, Fields.get? fields "message" = some (.text text)) ∧
      (HasInfinite fields "errorCode" ∨
        (∃ code, number fields "errorCode" = .ok code) ∧ HasInfinite fields "eventId")
  | _ => False

/-- A structured error is read from every body, or none is found in it, unless the body overflows. -/
theorem ofBody_eq_error_iff {failure : Failure} :
    ofBody status body = .error failure ↔ Overflows body ∧ failure = .shape .infiniteWhole := by
  cases body with
  | scalar s => simp [ofBody, Overflows]
  | list items => simp [ofBody, Overflows]
  | map fields =>
      simp only [ofBody, Overflows, ← numbers_eq_infiniteWhole_iff]
      generalize (do
        let code ← number fields "errorCode"
        let event ← number fields "eventId"
        pure (code, event)) = numbers
      split
      next text found =>
        have written : ∃ text, Fields.get? fields "message" = some (.text text) := ⟨text, found⟩
        split
        · simp
        · simp [written, eq_comm]
        · next other not_infinite =>
            have apart : other ≠ .shape .infiniteWhole := not_infinite
            simp [apart]
      next absent =>
        have not_written : ¬∃ text, Fields.get? fields "message" = some (.text text) := by
          rintro ⟨text, found⟩
          exact absent text found
        simp [not_written]

end BackendError

theorem Description.bounds_of_mem_successCodes {d : Description} {method path : String}
    {codes : List Int} (declared : d.successCodes method path = .ok codes) {code : Int}
    (mem : code ∈ codes) : 200 ≤ code ∧ code < 300 := by
  obtain ⟨operation, -, declared⟩ := ok_of_bind declared
  obtain ⟨entries, -, declared⟩ := ok_of_bind declared
  obtain rfl := Except.ok.inj declared
  simpa using (List.mem_filter.mp mem).2

/-- A world whose backend gives one answer to every request, and in which nothing else is found. -/
structure Responding where
  /-- The answer of the backend. -/
  response : HttpResponse

instance : World Responding where
  cluster _ world := (.error .kindNotServed, world)
  wire _ world := (.ok world.response, world)
  chart _ world := (.error (.releaseNotFound ""), world)
  file _ _ := .error .absent
  wallClock _ := "1970-01-01T00:00:00Z"
  steadyClock _ := .whole 0
  freshId world := ("0", world)

/-! ## The outcome over the wire -/

namespace Client

section Answers

variable {ω : Type} [World ω] (session : Session ω)

/-- The outcome as a request reports it, which says what it was for when no answer came. -/
def exchanged (operation : String) :
    Except Failure HttpResponse → Except Failure HttpResponse
  | .error (.exchange _ text) => .error (.transport (.unanswered operation text) none)
  | outcome => outcome

/-- What is made of the outcome of a request over the wire. -/
def judged (codes : List Int) (operation : String) (outcome : Except Failure HttpResponse) :
    Except Failure Value := do
  let response ← exchanged operation outcome
  if codes.contains response.status then decoded response
  else throw (refused operation response)

theorem answer_exchange (operation path : String) (sent : HttpRequest) :
    answer (exchange operation path sent) session =
      exchanged operation (World.wire (.send sent) session.world).1 := by
  have spanned (attributes : Fields) :
      answer (inSpan ("backend." ++ Text.lower sent.method) "" attributes (do
        let response ← Work.wire (.send sent)
        setAttribute "http.status_code" (.int response.status)
        pure response)) session = (World.wire (.send sent) session.world).1 := by
    have opened (change : Tracer → Tracer) :
        (final (inTrace change : Work ω Unit) session).world = session.world := rfl
    rw [answer_inSpan, answer_bind, Work.wire, answer_ask, opened]
    cases (World.wire (.send sent) session.world).1 with
    | ok response => simp only [setAttribute, inTrace, answer_bind, answer_report, answer_pure]
    | error failure => rfl
  unfold exchange
  rw [answer_bind_ok (answer_attempt _ _), spanned]
  generalize final (attempt _) session = after
  cases (World.wire (.send sent) session.world).1 with
  | ok response => simp only [count, answer_bind, answer_report, answer_pure]; rfl
  | error failure =>
      cases failure <;> simp only [count, answer_bind, answer_report] <;> rfl

section Allowed

variable (client : Client) (method path : String) (request : Request) {codes : List Int}
  (allowed : client.description.validateRequest (Text.upper method) path request.path.names
    request.query.names = .ok ())
  (declared : client.description.successCodes (Text.upper method) path = .ok codes)
  (nonempty : codes ≠ [])
include allowed declared nonempty

/-- An allowed request is sent once, and its outcome is judged. -/
theorem answer_send :
    answer (client.send method path request) session =
      judged codes (operationName (Text.upper method) path)
        (World.wire (.send (client.httpRequest (Text.upper method) path request)) session.world).1 := by
  have some_code : codes.isEmpty = false := by simpa using nonempty
  let operation := operationName (Text.upper method) path
  have concluded (response : HttpResponse) (after : Session ω) :
      answer (if codes.contains response.status then do
          count (.calls .backend operation .success)
          ofExcept (decoded response)
        else do
          count (.calls .backend operation .error)
          throw (refused operation response)) after =
        if codes.contains response.status then decoded response
        else .error (refused operation response) := by
    split
    · rw [answer_bind, count, answer_report, answer_ofExcept]
    · rw [answer_bind, count, answer_report]
      rfl
  unfold send
  simp only [allowed, declared, some_code, answer_bind, answer_ofExcept, final_ofExcept]
  rw [if_neg Bool.false_ne_true, answer_bind, answer_exchange, judged]
  cases exchanged (operationName (Text.upper method) path) _ with
  | error failure => rfl
  | ok response =>
      dsimp only
      split
      · rw [answer_bind, log, answer_report]
        exact concluded response _
      · exact concluded response _

/-- An answer with a declared status is decoded. -/
theorem answer_send_of_declared {response : HttpResponse}
    (answered : (World.wire (.send (client.httpRequest (Text.upper method) path request))
      session.world).1 = .ok response)
    (success : codes.contains response.status = true) :
    answer (client.send method path request) session = decoded response := by
  rw [answer_send session client method path request allowed declared nonempty, answered]
  exact if_pos success

end Allowed

end Answers

/-! ## Answers by kind -/

/-- The value that an answer stands for: an empty map when its body is blank, and otherwise what its text
decodes to.  The text belongs to the answer, whatever coding it was read from the bytes in. -/
def Holds (response : HttpResponse) (value : Value) : Prop :=
  if response.body.all isBlankByte then value = .map [] else Json.parse response.json = .ok value

theorem decoded_eq_ok_iff {response : HttpResponse} {value : Value} :
    decoded response = .ok value ↔ Holds response value := by
  unfold decoded Holds
  split
  · simp [eq_comm]
  · cases Json.parse response.json <;> simp

theorem decoded_ofUtf8 {status : Int} {bytes : List UInt8} {reason : Option String} {url : String}
    {cs : List Char} {value : Value} (filled : bytes.all isBlankByte = false)
    (text : Text.Utf8.chars 0 bytes = cs) (read : Json.readChars cs = .ok value) :
    decoded (.ofUtf8 status bytes reason url) = .ok value := by
  rw [decoded_eq_ok_iff, Holds, HttpResponse.ofUtf8, if_neg (by simp [filled]), Text.Utf8.decode, text]
  exact Json.parse_ofList read

theorem isTransport_of_decoded {response : HttpResponse} {failure : Failure}
    (failed : decoded response = .error failure) : failure.isTransport = true := by
  unfold decoded at failed
  split at failed
  · contradiction
  · split at failed
    · contradiction
    · exact Except.error.inj failed ▸ rfl

/-- The text in which an answer is read as JSON is a structured error with an infinite number. -/
def Overflows (response : HttpResponse) : Prop :=
  ∃ body, Json.parse response.json = .ok body ∧ BackendError.Overflows body

/-- What the text in which an answer is read as JSON decodes to, null when it is no JSON. -/
def parsed (response : HttpResponse) : Value :=
  match Json.parse response.json with
  | .ok value => value
  | .error _ => .null

theorem overflows_parsed_iff (response : HttpResponse) :
    BackendError.Overflows (parsed response) ↔ Overflows response := by
  unfold Overflows parsed
  cases Json.parse response.json <;> simp [BackendError.Overflows]

/-- The failure that the body of a refused answer reports. -/
def reported (operation : String) (response : HttpResponse) (body : Value) : Failure :=
  match BackendError.ofBody response.status body with
  | .ok (some error) => .backend error
  | .ok none =>
    .transport (.unexpectedStatus operation response.status response.text) (some response.status)
  | .error failure => failure

theorem reported_of_overflows {body : Value} (overflows : BackendError.Overflows body)
    (operation : String) (response : HttpResponse) :
    reported operation response body = .shape .infiniteWhole := by
  rw [reported, BackendError.ofBody_eq_error_iff.mpr ⟨overflows, rfl⟩]

theorem isTransport_reported {body : Value} (finite : ¬BackendError.Overflows body)
    (operation : String) (response : HttpResponse) :
    (reported operation response body).isTransport = true := by
  unfold reported
  cases read : BackendError.ofBody response.status body with
  | ok found => cases found <;> rfl
  | error failure => exact (finite (BackendError.ofBody_eq_error_iff.mp read).1).elim

theorem refused_eq {response : HttpResponse} (other : response.status ≠ 404) (operation : String) :
    refused operation response = reported operation response (parsed response) :=
  if_neg fun same => other (beq_iff_eq.mp same)

theorem refused_of_absent {response : HttpResponse} (absent : response.status = 404)
    (operation : String) : refused operation response = .notFound (operation ++ ": not found") :=
  if_pos (beq_iff_eq.mpr absent)

/-- What a caller may rely on: a value comes of a declared status only and is what the body stands for,
the resource is reported as absent for the status 404 only, and all else is a failure of the call. -/
structure KeepsContract (codes : List Int) (outcome : Except Failure HttpResponse)
    (result : Except Failure Value) : Prop where
  /-- A value comes of a declared status, and it is what the body stands for. -/
  value_iff (value : Value) : result = .ok value ↔
    ∃ response, outcome = .ok response ∧ response.status ∈ codes ∧ Holds response value
  /-- The resource is reported as absent for one status. -/
  notFound_iff : (∃ text, result = .error (.notFound text)) ↔
    ∃ response, outcome = .ok response ∧ response.status = 404
  /-- Any other failure is one of the call. -/
  classified (failure : Failure) : result = .error failure →
    (∃ text, failure = .notFound text) ∨ failure.isTransport = true

section Judging

variable {codes : List Int} {operation : String} {response : HttpResponse}
  {outcome : Except Failure HttpResponse} {failure : Failure}

/-- A failure of the call keeps the contract where no value and no absence is to be reported. -/
theorem keepsContract_of_isTransport (transport : failure.isTransport = true)
    (other : ∀ response, outcome = .ok response → response.status ∉ codes ∧ response.status ≠ 404) :
    KeepsContract codes outcome (.error failure) where
  value_iff value := by
    simp only [reduceCtorEq, false_iff, not_exists, not_and]
    exact fun response answered declared _ => (other response answered).1 declared
  notFound_iff := by
    constructor
    · rintro ⟨text, same⟩
      rw [Except.error.inj same] at transport
      contradiction
    · rintro ⟨response, answered, absent⟩
      exact ((other response answered).2 absent).elim
  classified other same := .inr (Except.error.inj same ▸ transport)

theorem keepsContract_absent (absent : response.status = 404) (undeclared : 404 ∉ codes)
    (text : String) : KeepsContract codes (.ok response) (.error (.notFound text)) where
  value_iff value := by simp [absent, undeclared]
  notFound_iff := by simp [absent]
  classified other same := .inl ⟨text, (Except.error.inj same).symm⟩

theorem keepsContract_decoded (declared : response.status ∈ codes) (undeclared : 404 ∉ codes) :
    KeepsContract codes (.ok response) (decoded response) where
  value_iff value := by simp [decoded_eq_ok_iff, declared]
  notFound_iff := by
    have found : response.status ≠ 404 := fun absent => undeclared (absent ▸ declared)
    simp only [Except.ok.injEq, exists_eq_left', found, iff_false]
    rintro ⟨text, failed⟩
    have transport := isTransport_of_decoded failed
    contradiction
  classified failure failed := .inr (isTransport_of_decoded failed)

theorem not_keepsContract_of_infinite :
    ¬KeepsContract codes outcome (.error (.shape .infiniteWhole)) := by
  intro keeps
  obtain ⟨text, same⟩ | transport := keeps.classified _ rfl <;> contradiction

/-- The answer has no declared status, and is a structured error that overflows. -/
def Escapes (codes : List Int) (outcome : Except Failure HttpResponse) : Prop :=
  ∃ response, outcome = .ok response ∧ response.status ∉ codes ∧ response.status ≠ 404 ∧
    Overflows response

theorem judged_of_escapes (escapes : Escapes codes outcome) (operation : String) :
    judged codes operation outcome = .error (.shape .infiniteWhole) := by
  obtain ⟨response, rfl, undeclared, other, overflows⟩ := escapes
  have refusal : judged codes operation (.ok response) = .error (refused operation response) :=
    if_neg fun contained => undeclared (List.contains_iff_mem.mp contained)
  rw [refusal, refused_eq other,
    reported_of_overflows ((overflows_parsed_iff response).mpr overflows)]

theorem keepsContract_judged (absent : 404 ∉ codes)
    (settled : ∀ failure, outcome = .error failure → failure.isExchange = true)
    (contained : ¬Escapes codes outcome) (operation : String) :
    KeepsContract codes outcome (judged codes operation outcome) := by
  cases outcome with
  | error failure =>
      have exchange := settled failure rfl
      cases failure <;> try contradiction
      exact keepsContract_of_isTransport rfl (by simp)
  | ok response =>
      unfold judged
      dsimp only [exchanged, bind, Except.bind]
      split
      next declared =>
        exact keepsContract_decoded (List.contains_iff_mem.mp declared) absent
      next refusal =>
        have undeclared : response.status ∉ codes :=
          fun declared => refusal (List.contains_iff_mem.mpr declared)
        by_cases gone : response.status = 404
        · rw [refused_of_absent gone]
          exact keepsContract_absent gone absent _
        · have finite : ¬BackendError.Overflows (parsed response) := fun overflows =>
            contained ⟨response, rfl, undeclared, gone, (overflows_parsed_iff response).mp overflows⟩
          rw [refused_eq gone]
          refine keepsContract_of_isTransport (isTransport_reported finite operation response) ?_
          rintro _ ⟨⟩
          exact ⟨undeclared, gone⟩

end Judging

section Contract

variable {ω : Type} [World ω] (session : Session ω) (client : Client) (method path : String)
  (request : Request) {codes : List Int}

/-- For an allowed request to an operation with a declared status of success, whatever the outcome over
the wire is, the contract is kept unless the answer is a structured error that overflows.  Such an answer
ends in a failure of arithmetic.  The values of the request are characters, so that they have an address;
the answers are all of them, with any status, bytes and texts. -/
theorem send_keepsContract_iff
    (allowed : client.description.validateRequest (Text.upper method) path request.path.names
      request.query.names = .ok ())
    (declared : client.description.successCodes (Text.upper method) path = .ok codes)
    (nonempty : codes ≠ [])
    (settled : ∀ failure, (World.wire (.send (client.httpRequest (Text.upper method) path request))
      session.world).1 = .error failure → failure.isExchange = true) :
    let outcome :=
      (World.wire (.send (client.httpRequest (Text.upper method) path request)) session.world).1
    let result := answer (client.send method path request) session
    (∀ code ∈ codes, 200 ≤ code ∧ code < 300) ∧
      (KeepsContract codes outcome result ↔ ¬Escapes codes outcome) ∧
      (Escapes codes outcome → result = .error (.shape .infiniteWhole)) := by
  intro outcome result
  have success : ∀ code ∈ codes, 200 ≤ code ∧ code < 300 := fun code =>
    Description.bounds_of_mem_successCodes declared
  have absent : 404 ∉ codes := fun mem => by
    have := success 404 mem
    omega
  have judgment : result = judged codes (operationName (Text.upper method) path) outcome :=
    answer_send session client method path request allowed declared nonempty
  rw [judgment]
  refine ⟨success, ⟨fun keeps escapes => ?_, fun contained => ?_⟩, fun escapes => ?_⟩
  · rw [judged_of_escapes escapes] at keeps
    exact not_keepsContract_of_infinite keeps
  · exact keepsContract_judged absent settled contained _
  · exact judged_of_escapes escapes _

end Contract

/-! ## Two answers -/

/-- A description with a single operation, which succeeds with the status 200. -/
def pingApi : Description :=
  ⟨.ofFields [("paths", .ofFields [("/ping", .ofFields [("get", .ofFields
    [("responses", .ofFields [("200", .map [])])])])])], "api.yaml"⟩

/-- The client of its backend. -/
def pingClient : Client :=
  ⟨pingApi, "http://backend", none, .whole 20, false⟩

/-- A session with a backend that gives one answer to every request. -/
def responding (response : HttpResponse) : Session Responding :=
  ⟨⟨response⟩, .start .critical false, ⟨true, false⟩, .empty (.whole 0), none⟩

theorem send_keepsContract_blank :
    pingApi.validateRequest "GET" "/ping" [] [] = .ok () ∧
      pingApi.successCodes "GET" "/ping" = .ok [200] ∧
      KeepsContract [200] (.ok (.ofUtf8 200 [0x20] none ""))
        (answer (pingClient.send "get" "/ping" .empty) (responding (.ofUtf8 200 [0x20] none ""))) := by
  have allowed : pingApi.validateRequest "GET" "/ping" [] [] = .ok () := rfl
  have declared : pingApi.successCodes "GET" "/ping" = .ok [200] := rfl
  have contract := send_keepsContract_iff (responding (.ofUtf8 200 [0x20] none "")) pingClient "get" "/ping"
    .empty allowed declared (by simp) (fun failure failed => by contradiction)
  refine ⟨allowed, declared, contract.2.1.mpr ?_⟩
  rintro ⟨_, ⟨⟩, undeclared, -⟩
  exact undeclared (List.mem_singleton.mpr rfl)

/-- The characters of a structured error with an infinite number. -/
def overflowing : List Char :=
  ['{', '"', 'm', 'e', 's', 's', 'a', 'g', 'e', '"', ':', '"', '"', ',', '"', 'e', 'r', 'r', 'o', 'r',
    'C', 'o', 'd', 'e', '"', ':', '1', 'e', '9', '9', '9', '}']

/-- The answer that states it. -/
def overflowingResponse : HttpResponse :=
  .ofUtf8 500 (overflowing.map fun c => UInt8.ofNat c.toNat) none ""

/-- The fields of the error. -/
def overflowingFields : Fields :=
  [(.text "message", .text ""), (.text "errorCode", .float (.ofBits 0x7FF0000000000000))]

theorem readChars_overflowing : Json.readChars overflowing = .ok (.map overflowingFields) := rfl

theorem overflows_overflowingResponse : Overflows overflowingResponse := by
  have text : overflowingResponse.json = String.ofList overflowing :=
    congrArg String.ofList (by rfl : Text.Utf8.chars 0 overflowingResponse.body = overflowing)
  have parsed : Json.parse overflowingResponse.json = .ok (.map overflowingFields) := by
    rw [text]
    exact Json.parse_ofList readChars_overflowing
  have infinite : BackendError.HasInfinite overflowingFields "errorCode" :=
    ⟨_, rfl, false, by decide⟩
  exact ⟨_, parsed, ⟨"", rfl⟩, .inl infinite⟩

/-- The contract does not hold of every answer. -/
theorem not_keepsContract_overflowing :
    pingApi.validateRequest "GET" "/ping" [] [] = .ok () ∧
      pingApi.successCodes "GET" "/ping" = .ok [200] ∧
      ¬KeepsContract [200] (.ok overflowingResponse)
        (answer (pingClient.send "get" "/ping" .empty) (responding overflowingResponse)) := by
  have allowed : pingApi.validateRequest "GET" "/ping" [] [] = .ok () := rfl
  have declared : pingApi.successCodes "GET" "/ping" = .ok [200] := rfl
  have escapes : Escapes [200] (.ok overflowingResponse) :=
    ⟨_, rfl, by decide, by decide, overflows_overflowingResponse⟩
  have judgment := answer_send (responding overflowingResponse) pingClient "get" "/ping" .empty allowed
    declared (by simp)
  refine ⟨allowed, declared, ?_⟩
  rw [judgment, show (World.wire _ (responding overflowingResponse).world).1 =
    .ok overflowingResponse from rfl, judged_of_escapes escapes]
  exact not_keepsContract_of_infinite

end Client

end Reconciler
