import Reconciler.Proofs.Session.Record

/-!
# Requests over the wire, recorded

A world outside that records the requests which are sent to backends, and answers as before.  Only a
client adds to the record: one request for a call that its description allows, and none for a call that it
refuses.
-/

namespace Reconciler

/-- The requests that a call over the wire sends. -/
def WireCall.requests : WireCall → List HttpRequest
  | .send request => [request]
  | .download .. => []

/-- A world outside, and the requests that were sent so far. -/
structure Tapped (ω : Type) where
  /-- The world outside. -/
  world : ω
  /-- The requests in their order. -/
  sent : List HttpRequest

instance {ω : Type} [World ω] : World (Tapped ω) where
  cluster call tapped :=
    ((World.cluster call tapped.world).1,
      { tapped with world := (World.cluster call tapped.world).2 })
  wire call tapped :=
    ((World.wire call tapped.world).1,
      ⟨(World.wire call tapped.world).2, tapped.sent ++ call.requests⟩)
  chart call tapped :=
    ((World.chart call tapped.world).1,
      { tapped with world := (World.chart call tapped.world).2 })
  file tapped := World.file tapped.world
  wallClock tapped := World.wallClock tapped.world
  steadyClock tapped := World.steadyClock tapped.world
  freshId tapped :=
    ((World.freshId tapped.world).1, { tapped with world := (World.freshId tapped.world).2 })

/-- The requests that were sent so far, in a world that records the writes to the cluster as well. -/
def Session.sent {ω : Type} (session : Session (Recorded (Tapped ω))) : List HttpRequest :=
  session.world.world.sent

namespace Tapped

variable {ω α : Type} [World ω]

theorem detached_sent : Detached (Session.sent (ω := ω)) where
  called _ _ := rfl
  identified _ := rfl
  reported _ _ := rfl

theorem sent_wire (call : WireCall) (session : Session (Recorded (Tapped ω))) :
    (final (Work.wire call) session).sent = session.sent ++ call.requests := by
  rw [Work.wire, final_ask]
  rfl

/-- Work that sends no requests leaves the record as it is. -/
theorem keeps_made {may : Permit} {work : Work (Recorded (Tapped ω)) α} (made : Work.Made may work)
    (silent : may.sends = false) : Keeps Session.sent work := by
  refine made.keeps fun _ _ part => detached_sent.butWrites.keeps_part part
    (fun call _ _ => keeps_cluster (detached_sent.called call)) fun _ => ?_
  refine ⟨fun call sending session => ?_, fun call session => ?_, fun _ _ _ => rfl⟩
  · cases call with
    | send request => simp [silent, WireCall.sends] at sending
    | download url timeout => rw [sent_wire, WireCall.requests, List.append_nil]
  · rw [Work.chart, final_ask]
    rfl

end Tapped

namespace Client

variable {ω : Type} [World ω] (client : Client) (method path : String) (request : Request)

/-- A request that the description refuses fails with what is missing, before anything else is done. -/
theorem send_of_refused {failure : Failure}
    (refused : client.description.validateRequest (Text.upper method) path request.path.names
      request.query.names = .error failure) (session : Session ω) :
    answer (client.send method path request) session = .error failure ∧
      final (client.send method path request) session = session := by
  unfold send
  dsimp only
  rw [refused]
  exact ⟨rfl, rfl⟩

variable (session : Session (Recorded (Tapped ω)))

theorem sent_exchange (operation : String) (sent : HttpRequest) :
    (final (exchange operation path sent) session).sent = session.sent ++ [sent] := by
  have counted (metric : Metric) :
      Keeps Session.sent (count metric : Work (Recorded (Tapped ω)) Unit) := fun _ => rfl
  have traced (change : Tracer → Tracer) :
      Keeps Session.sent (inTrace change : Work (Recorded (Tapped ω)) Unit) := fun _ => rfl
  unfold exchange
  refine (view_final_bind Session.sent (fun outcome => ?_) session).trans ?_
  · split
    · exact keeps_bind (counted _) fun _ => keeps_pure _
    · exact keeps_bind (counted _) fun _ => keeps_bind (counted _) fun _ => keeps_throw _
    · exact keeps_bind (counted _) fun _ => keeps_throw _
  · rw [final_attempt]
    obtain ⟨close, spanned⟩ := final_inSpan session ("backend." ++ Text.lower sent.method) "" _ _
    rw [spanned, traced]
    refine (view_final_bind Session.sent (fun response => ?_) _).trans (Tapped.sent_wire _ _)
    exact keeps_bind (traced _) fun _ => keeps_pure response

/-- A request that the description allows is sent once where a status of success is declared for it. -/
theorem sent_send_of_declared {codes : List Int}
    (allowed : client.description.validateRequest (Text.upper method) path request.path.names
      request.query.names = .ok ())
    (declared : client.description.successCodes (Text.upper method) path = .ok codes)
    (nonempty : codes.isEmpty = false) :
    (final (client.send method path request) session).sent =
      session.sent ++ [client.httpRequest (Text.upper method) path request] := by
  unfold send
  simp only [allowed, declared, nonempty, final_bind, answer_ofExcept, final_ofExcept]
  rw [if_neg Bool.false_ne_true]
  refine (view_final_bind Session.sent (fun response => ?_) session).trans (sent_exchange _ session _ _)
  exact Tapped.keeps_made (client.made_concluded _ codes _ response)
    (rfl : Permit.sends ⟨false, false, false, false⟩ = false)

/-- Sending adds one request at most, which the description allows. -/
theorem sent_send :
    (final (client.send method path request) session).sent = session.sent ∨
      client.description.validateRequest (Text.upper method) path request.path.names
          request.query.names = .ok () ∧
        (final (client.send method path request) session).sent =
          session.sent ++ [client.httpRequest (Text.upper method) path request] := by
  cases validated : client.description.validateRequest (Text.upper method) path request.path.names
      request.query.names with
  | error failure =>
      exact .inl (congrArg Session.sent (client.send_of_refused _ _ _ validated session).2)
  | ok _ =>
      cases declared : client.description.successCodes (Text.upper method) path with
      | error failure =>
          refine .inl ?_
          unfold send
          simp only [validated, declared, final_bind, answer_ofExcept, final_ofExcept]
      | ok codes =>
          cases empty : codes.isEmpty with
          | true =>
              refine .inl ?_
              unfold send
              simp only [validated, declared, empty, final_bind, answer_ofExcept, final_ofExcept]
              rfl
          | false =>
              exact .inr ⟨rfl, client.sent_send_of_declared _ _ _ session validated declared empty⟩

/-- A request that is answered was sent. -/
theorem sent_send_of_answered {value : Value}
    (answered : answer (client.send method path request) session = .ok value) :
    (final (client.send method path request) session).sent =
      session.sent ++ [client.httpRequest (Text.upper method) path request] := by
  have passed := answered
  unfold send at passed
  obtain ⟨_, allowed, passed⟩ := ok_of_answer_bind passed
  obtain ⟨codes, declared, passed⟩ := ok_of_answer_bind passed
  rw [answer_ofExcept] at allowed declared
  refine client.sent_send_of_declared _ _ _ session allowed declared ?_
  cases empty : codes.isEmpty with
  | true =>
      rw [if_pos empty] at passed
      contradiction
  | false => rfl

end Client

/-- The method under which a bound call is sent, before it is put in capitals. -/
def BoundCall.method : BoundCall → String
  | .single kind => kind.text
  | .list method | .findBy method => method

namespace Client

variable {ω : Type} [World ω] (client : Client) (call : BoundCall) (path : String) (request : Request)

theorem performBound_of_refused {failure : Failure}
    (refused : client.description.validateRequest (Text.upper call.method) path request.path.names
      request.query.names = .error failure) (session : Session ω) :
    answer (client.performBound call path request) session = .error failure ∧
      final (client.performBound call path request) session = session := by
  have sending := client.send_of_refused _ path request refused session
  cases call with
  | single kind => exact sending
  | list method => exact sending
  | findBy method =>
      unfold performBound findBy
      dsimp only
      rw [answer_bind, final_bind]
      simp only [BoundCall.method] at sending
      rw [sending.1]
      exact ⟨rfl, sending.2⟩

/-- A bound call adds one request at most, which the description allows. -/
theorem sent_performBound (session : Session (Recorded (Tapped ω))) :
    (final (client.performBound call path request) session).sent = session.sent ∨
      client.description.validateRequest (Text.upper call.method) path request.path.names
          request.query.names = .ok () ∧
        (final (client.performBound call path request) session).sent =
          session.sent ++ [client.httpRequest (Text.upper call.method) path request] := by
  have sending := client.sent_send call.method path request session
  cases call with
  | single kind => exact sending
  | list method => exact sending
  | findBy method =>
      have searched : (final (client.findBy method path request) session).sent =
          (final (client.send method path request) session).sent := by
        refine view_final_bind Session.sent (fun answered => ?_) session
        split
        · exact keeps_pure _
        · exact keeps_throw _
      rw [performBound, searched]
      exact sending

end Client

end Reconciler
