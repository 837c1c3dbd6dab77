import Reconciler.Proofs.Backend.Outcomes
import Reconciler.Proofs.Session.Wire

/-!
# Two ways of making a call

A resolved call can be made directly, or through the performance that is bound to it, which fixes a method of
its own.  The two agree, because sending puts the method in capitals: the name of a kind of call is what the
declared method becomes.  A call is resolved from the first verb that is declared for its action, and from
nothing that stands behind it.
-/

namespace Reconciler

theorem Action.normalized_of_ofText {name : String} {action : Action}
    (named : Action.ofText name = .ok action) : Action.normalized name = action.text := by
  unfold ofText at named
  split at named
  next found =>
    obtain rfl := Except.ok.inj named
    have matched := List.find?_some found
    exact (beq_iff_eq.mp matched).symm
  next => cases named

namespace CallKind

theorem upper_text {kind : CallKind} (isSingle : kind ∈ single) : Text.upper kind.text = kind.text := by
  revert kind
  decide

/-- A listing and a search are made with any method, another call with the one of its name. -/
theorem ofAction_cases {action : Action} {method : String} {kind : CallKind}
    (chosen : ofAction action method = .ok kind) :
    kind = .findBy ∨ kind = .list ∨ kind ∈ single ∧ kind.text = Text.upper method := by
  unfold ofAction at chosen
  split at chosen
  · exact .inl (Except.ok.inj chosen).symm
  · exact .inr (.inl (Except.ok.inj chosen).symm)
  · split at chosen
    next found =>
      obtain rfl := Except.ok.inj chosen
      have matched := List.find?_some found
      exact .inr (.inr ⟨List.mem_of_find?_eq_some found, beq_iff_eq.mp matched⟩)
    next => contradiction

end CallKind

/-- The performances that a call is bound to, by its kind. -/
theorem BoundCall.ofCall_cases {action : Action} {call : Call}
    (chosen : CallKind.ofAction action call.method = .ok call.kind) :
    call.kind = .findBy ∧ ofCall call = .findBy call.method ∨
      call.kind = .list ∧ ofCall call = .list call.method ∨
        ofCall call = .single call.kind ∧ Text.upper call.kind.text = Text.upper call.method ∧
          call.kind ≠ .findBy := by
  obtain search | listing | ⟨isSingle, named⟩ := CallKind.ofAction_cases chosen
  · exact .inl ⟨search, by rw [ofCall, search]⟩
  · exact .inr (.inl ⟨listing, by rw [ofCall, listing]⟩)
  · have apart : call.kind ≠ .list ∧ call.kind ≠ .findBy := by
      constructor <;> intro same <;> simp [same, CallKind.single] at isSingle
    refine .inr (.inr ⟨?_, (CallKind.upper_text isSingle).trans named, apart.2⟩)
    unfold ofCall
    split
    · exact absurd ‹_› apart.1
    · exact absurd ‹_› apart.2
    · rfl

namespace Call

variable {description : Description} {descriptor : Descriptor} {action : Action} {call : Call}
  {before after : List Verb} {verb : Verb}

/-- The verb is the first of a descriptor that is declared for an action; the action is compared without white
space around it, and in lower case. -/
structure First (descriptor : Descriptor) (action : Action) (before : List Verb) (verb : Verb)
    (after : List Verb) : Prop where
  /-- The verb is listed. -/
  listed : descriptor.verbs = before ++ verb :: after
  /-- It is declared for the action. -/
  declared : Action.normalized verb.action = action.text
  /-- The verbs before it are declared for other actions. -/
  passed : ∀ earlier ∈ before, Action.normalized earlier.action ≠ action.text

theorem verbFor?_eq_some_iff :
    verbFor? action descriptor.verbs = some verb ↔
      ∃ before after, First descriptor action before verb after := by
  simp only [verbFor?, List.find?_eq_some_iff_append, beq_iff_eq, Bool.not_eq_eq_eq_not, Bool.not_true,
    beq_eq_false_iff_ne]
  constructor
  · rintro ⟨declared, before, after, listed, passed⟩
    exact ⟨before, after, listed, declared, passed⟩
  · rintro ⟨before, after, listed, declared, passed⟩
    exact ⟨declared, before, after, listed, passed⟩

/-- The verbs behind the first one that is declared for the action change nothing, whatever becomes of it. -/
theorem resolve_of_first (first : First descriptor action before verb after) (others : List Verb) :
    resolve description { descriptor with verbs := before ++ verb :: others } action =
      ofVerb description descriptor action verb := by
  have first' : First { descriptor with verbs := before ++ verb :: others } action before verb others :=
    ⟨rfl, first.declared, first.passed⟩
  have found : verbFor? action (before ++ verb :: others) = some verb :=
    verbFor?_eq_some_iff.mpr ⟨before, others, first'⟩
  rw [resolve, found]
  rfl

theorem exists_first (resolved : resolve description descriptor action = .ok call) :
    ∃ before verb after, First descriptor action before verb after ∧
      ofVerb description descriptor action verb = .ok call := by
  unfold resolve at resolved
  split at resolved
  next verb found =>
    obtain ⟨before, after, first⟩ := verbFor?_eq_some_iff.mp found
    exact ⟨before, verb, after, first, resolved⟩
  next => contradiction

/-- The call of a verb has the method of the verb, in capitals, and its path. -/
theorem stated_of_ofVerb (made : ofVerb description descriptor action verb = .ok call) :
    call.method = Text.upper verb.method ∧ call.path = verb.path ∧
      CallKind.ofAction action call.method = .ok call.kind := by
  obtain ⟨kind, chosen, made⟩ := ok_of_bind made
  obtain ⟨names, -, made⟩ := ok_of_bind made
  dsimp only at made
  split at made
  · obtain ⟨bodyNames, -, made⟩ := ok_of_bind made
    obtain rfl := Except.ok.inj made
    exact ⟨rfl, rfl, chosen⟩
  · obtain rfl := Except.ok.inj made
    exact ⟨rfl, rfl, chosen⟩

end Call

namespace Client

variable {ω : Type} [World ω] (client : Client) {descriptor : Descriptor} {action : Action} {call : Call}

theorem send_congr {method other : String} (same : Text.upper method = Text.upper other) (path : String)
    (request : Request) :
    (client.send method path request : Work ω Value) = client.send other path request := by
  unfold send
  rw [same]

/-- A call is sent with the declared method either way. -/
theorem upper_method_ofCall (chosen : CallKind.ofAction action call.method = .ok call.kind) :
    Text.upper (BoundCall.ofCall call).method = Text.upper call.method := by
  obtain ⟨-, bound⟩ | ⟨-, bound⟩ | ⟨bound, same, -⟩ := BoundCall.ofCall_cases chosen
  · rw [bound, BoundCall.method]
  · rw [bound, BoundCall.method]
  · rw [bound, BoundCall.method, same]

theorem performBound_ofCall (chosen : CallKind.ofAction action call.method = .ok call.kind)
    (request : Request) :
    (client.performBound (.ofCall call) call.path request : Work ω Value) =
      client.perform call request := by
  obtain ⟨search, bound⟩ | ⟨listing, bound⟩ | ⟨bound, same, apart⟩ := BoundCall.ofCall_cases chosen
  · rw [bound, perform, search, performBound]
  · rw [bound, perform, listing, performBound]
  · rw [bound, performBound, client.send_congr same]
    unfold perform
    split
    · exact absurd ‹_› apart
    · rfl

/-- A call that was resolved can be made directly, or as it was bound, in any world outside: either way it
does and answers the same.  It sends one request at most, with the method and the path of the verb.  This
verb is the first one of the descriptor that is declared for the action, or for what a text names as the
action, and whatever else is listed behind it, the same call is resolved. -/
theorem performBound_eq_perform
    (resolved : Call.resolve client.description descriptor action = .ok call) :
    (∀ request : Request, (client.performBound (.ofCall call) call.path request : Work ω Value) =
        client.perform call request) ∧
      (∀ (request : Request) (session : Session (Recorded (Tapped ω))),
        let bound := client.performBound (.ofCall call) call.path request
        let direct := client.perform call request
        answer bound session = answer direct session ∧
          ∃ requests, (final bound session).sent = session.sent ++ requests ∧
            (final direct session).sent = session.sent ++ requests ∧
            (requests = [] ∨
              requests = [client.httpRequest (Text.upper call.method) call.path request])) ∧
      ∃ before verb after, Call.First descriptor action before verb after ∧
        call.method = Text.upper verb.method ∧ call.path = verb.path ∧
        (∀ name, Action.ofText name = .ok action →
          Action.normalized verb.action = Action.normalized name) ∧
        ∀ others, Call.resolve client.description
          { descriptor with verbs := before ++ verb :: others } action = .ok call := by
  obtain ⟨before, verb, after, first, made⟩ := Call.exists_first resolved
  obtain ⟨method, path, chosen⟩ := Call.stated_of_ofVerb made
  refine ⟨client.performBound_ofCall chosen, fun request session => ?_,
    before, verb, after, first, method, path, fun name named => ?_, fun others => ?_⟩
  · intro bound direct
    have agrees : bound = direct := client.performBound_ofCall chosen request
    rw [← agrees]
    refine ⟨rfl, ?_⟩
    obtain unsent | ⟨-, sent⟩ := client.sent_performBound (.ofCall call) call.path request session
    · exact ⟨[], by simpa using unsent, by simpa using unsent, .inl rfl⟩
    · rw [upper_method_ofCall chosen] at sent
      exact ⟨_, sent, sent, .inr rfl⟩
  · rw [first.declared, Action.normalized_of_ofText named]
  · rw [Call.resolve_of_first first, made]

/-- A descriptor with two verbs for a search, the first of which is declared with a method in small letters,
behind a verb for something else. -/
def searching : Descriptor :=
  ⟨"Repo", [], [⟨"get", "get", "/ping", []⟩, ⟨" FindBy ", "get", "/ping", []⟩,
    ⟨"findby", "post", "/repos", []⟩], [], []⟩

/-- The call of the first of them. -/
def searchingCall : Call :=
  { action := .findBy, kind := .findBy, method := "GET", path := "/ping", pathNames := [], queryNames := []
    bodyNames := [], identifiers := [], renames := [] }

theorem performBound_eq_perform_searching :
    Action.ofText "FINDBY" = .ok .findBy ∧
      Call.resolve pingApi searching .findBy = .ok searchingCall ∧
      (pingClient.performBound (.ofCall searchingCall) "/ping" .empty : Work Responding Value) =
        pingClient.perform searchingCall .empty ∧
      ∀ verb, Call.resolve pingApi { searching with verbs := searching.verbs ++ [verb] } .findBy =
        .ok searchingCall := by
  have resolved : Call.resolve pingApi searching .findBy = .ok searchingCall := rfl
  obtain ⟨agrees, -, before, verb, after, first, -, -, -, behind⟩ :=
    performBound_eq_perform (ω := Responding) pingClient resolved
  refine ⟨rfl, resolved, agrees _, fun other => ?_⟩
  have listed : searching.verbs ++ [other] = before ++ verb :: (after ++ [other]) := by
    rw [first.listed, List.append_assoc, List.cons_append]
  rw [listed]
  exact behind _

end Client

end Reconciler
