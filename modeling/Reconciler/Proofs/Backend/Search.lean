import Reconciler.Proofs.Backend.Bindings
import Reconciler.Proofs.Backend.Outcomes
import Reconciler.Proofs.Session.Wire
import Reconciler.Proofs.Value.Access

/-!
# The search for an item

A search lists and picks: it makes the request of the listing and leaves behind what the listing leaves, and
its answer is the first of the listed items that has the text of a parameter in a field of the same name.
Whatever else stands in the list is passed over.
-/

namespace Reconciler

/-- The value of a parameter, where the query comes before the path. -/
def Request.given? (request : Request) (name : String) : Option String :=
  (request.query.last? name).or (request.path.last? name)

namespace Client

/-- The item is a map, and under the name of a parameter it has the text of the parameter. -/
def Fits (request : Request) (item : Value) : Prop :=
  ∃ fields name text, item = .map fields ∧ request.given? name = some text ∧
    Fields.get? fields name = some (.text text)

/-- The answer lists the items: it is the list of them, or a map whose first list they are. -/
inductive Lists : Value → List Value → Prop where
  /-- The answer is the list. -/
  | list (items : List Value) : Lists (.list items) items
  /-- The list is a field of the answer, and no field before it is one. -/
  | field {before : Fields} (key : Scalar) (items : List Value) (after : Fields)
    (first : ∀ entry ∈ before, ∀ others, entry.2 ≠ .list others) :
    Lists (.map (before ++ (key, .list items) :: after)) items

/-- The item is the earliest of the listed ones that fits. -/
def Earliest (request : Request) (answered item : Value) : Prop :=
  ∃ before after, Lists answered (before ++ item :: after) ∧ Fits request item ∧
    ∀ earlier ∈ before, ¬Fits request earlier

/-- The outcome is the earliest item that fits, and a report that nothing is found when none does. -/
structure Finds (request : Request) (answered : Value) (outcome : Except Failure Value) : Prop where
  /-- An item is found exactly when it is the earliest that fits. -/
  found_iff (item : Value) : outcome = .ok item ↔ Earliest request answered item
  /-- Nothing is found exactly when no listed item fits. -/
  absent_iff : (∃ text, outcome = .error (.notFound text)) ↔
    ¬∃ items, Lists answered items ∧ ∃ item ∈ items, Fits request item

variable {request : Request} {answered item : Value} {items : List Value}

/-! ## What is wanted -/

theorem get?_wantedBy (request : Request) (name : String) :
    (wantedBy request).get? name = request.given? name := by
  rw [wantedBy, Bindings.get?_merge, Bindings.get?_merge, Request.given?]
  exact congrArg _ (Option.or_none)

theorem mem_wantedBy {name text : String} :
    (name, text) ∈ wantedBy request ↔ request.given? name = some text := by
  have empty : (Bindings.names []).Nodup := List.nodup_nil
  have nodup : (wantedBy request).names.Nodup :=
    Bindings.nodup_names_merge (Bindings.nodup_names_merge empty _) _
  rw [← get?_wantedBy, Bindings.get?, Bindings.lookup_eq_some_iff nodup]

theorem isWanted_iff : isWanted (wantedBy request) item = true ↔ Fits request item := by
  simp only [isWanted, List.any_eq_true, beq_iff_eq, Option.bind_eq_some_iff, Value.get?,
    Value.fields?_eq_some_iff, Value.text?_eq_some_iff, Prod.exists, mem_wantedBy, Fits]
  constructor
  · rintro ⟨name, text, given, _, ⟨fields, rfl, found⟩, rfl⟩
    exact ⟨fields, name, text, rfl, given, found⟩
  · rintro ⟨fields, name, text, rfl, given, found⟩
    exact ⟨name, text, given, _, ⟨fields, rfl, found⟩, rfl⟩

/-! ## What is listed -/

theorem lists_map_iff {fields : Fields} :
    Lists (.map fields) items ↔ (Fields.values fields).findSome? Value.items? = some items := by
  simp only [Fields.values, List.findSome?_map, List.findSome?_eq_some_iff, Function.comp_apply,
    Value.items?_eq_some_iff, Value.items?_eq_none_iff]
  constructor
  · rintro ⟨⟩
    next before key after first => exact ⟨before, (key, .list items), after, rfl, rfl, first⟩
  · rintro ⟨before, ⟨key, _⟩, after, rfl, rfl, first⟩
    exact .field key items after first

theorem firstList_of_lists (lists : Lists answered items) : firstList answered = items := by
  cases answered with
  | scalar s => contradiction
  | list own => cases lists with | list => rfl
  | map fields => rw [firstList, lists_map_iff.mp lists, Option.getD_some]

theorem lists_firstList (member : item ∈ firstList answered) : Lists answered (firstList answered) := by
  cases answered with
  | scalar s => contradiction
  | list own => exact .list own
  | map fields =>
      rw [lists_map_iff, firstList]
      rw [firstList] at member
      cases found : (Fields.values fields).findSome? Value.items? with
      | none => simp [found] at member
      | some items => rfl

theorem find?_eq_some_iff_earliest :
    (firstList answered).find? (isWanted (wantedBy request)) = some item ↔
      Earliest request answered item := by
  simp only [List.find?_eq_some_iff_append, Bool.not_eq_eq_eq_not, Bool.not_true, ← Bool.not_eq_true,
    isWanted_iff, Earliest]
  constructor
  · rintro ⟨fits, before, after, split, passed⟩
    have member : item ∈ firstList answered := by simp [split]
    exact ⟨before, after, split ▸ lists_firstList member, fits, passed⟩
  · rintro ⟨before, after, lists, fits, passed⟩
    exact ⟨fits, before, after, firstList_of_lists lists, passed⟩

theorem find?_eq_none_iff_nothing :
    (firstList answered).find? (isWanted (wantedBy request)) = none ↔
      ¬∃ items, Lists answered items ∧ ∃ item ∈ items, Fits request item := by
  simp only [List.find?_eq_none, isWanted_iff]
  constructor
  · rintro missing ⟨items, lists, item, member, fits⟩
    exact missing item (firstList_of_lists lists ▸ member) fits
  · intro nothing item member fits
    exact nothing ⟨_, lists_firstList member, item, member, fits⟩

/-! ## The search as a filter over the listing -/

section Searching

variable {ω : Type} [World ω] (client : Client) (method path : String) (request : Request)

theorem final_findBy (session : Session ω) :
    final (client.findBy method path request) session = final (client.send method path request) session := by
  refine view_final_bind id (fun answered => ?_) session
  split
  · exact keeps_pure _
  · exact keeps_throw _

theorem answer_findBy_of_error {session : Session ω} {failure : Failure}
    (failed : answer (client.send method path request) session = .error failure) :
    answer (client.findBy method path request) session = .error failure := by
  rw [findBy, answer_bind, failed]

theorem finds_of_ok {session : Session ω} {answered : Value}
    (listed : answer (client.send method path request) session = .ok answered) :
    Finds request answered (answer (client.findBy method path request) session) := by
  have failed (failure : Failure) (after : Session ω) :
      answer (throw failure : Work ω Value) after = .error failure := rfl
  rw [findBy, answer_bind_ok listed]
  cases found : (firstList answered).find? (isWanted (wantedBy request)) with
  | some item =>
      refine ⟨fun other => ?_, ?_⟩
      · rw [← find?_eq_some_iff_earliest, found]
        simp
      · rw [← find?_eq_none_iff_nothing, found]
        simp
  | none =>
      refine ⟨fun other => ?_, ?_⟩
      · rw [← find?_eq_some_iff_earliest, found]
        simp [failed]
      · rw [← find?_eq_none_iff_nothing, found]
        exact ⟨fun _ => rfl, fun _ => ⟨_, failed _ _⟩⟩

/-- A search leaves everything as the listing leaves it, fails as the listing fails, and on an answer to the
listing finds what it lists.  It sends what the listing sends, which is one request at most, and one exactly
where an answer is decoded. -/
theorem findBy_filters_list :
    (∀ session : Session ω,
      let search := client.performBound (.findBy method) path request
      let listing := client.performBound (.list method) path request
      final search session = final listing session ∧
        match answer listing session with
        | .ok answered => Finds request answered (answer search session)
        | .error failure => answer search session = .error failure) ∧
      ∀ session : Session (Recorded (Tapped ω)),
        let search := client.performBound (.findBy method) path request
        let listing := client.performBound (.list method) path request
        ∃ requests, (final search session).sent = session.sent ++ requests ∧
          (final listing session).sent = session.sent ++ requests ∧
          (requests = [] ∨ requests = [client.httpRequest (Text.upper method) path request]) ∧
          ((∃ answered, answer listing session = .ok answered) →
            requests = [client.httpRequest (Text.upper method) path request]) := by
  refine ⟨fun session => ⟨final_findBy client method path request session, ?_⟩, fun session => ?_⟩
  · simp only [performBound]
    split
    next answered listed => exact finds_of_ok client method path request listed
    next failure failed => exact answer_findBy_of_error client method path request failed
  · simp only [performBound]
    rw [final_findBy]
    obtain silent | ⟨-, spoken⟩ := client.sent_send method path request session
    · refine ⟨[], by simpa using silent, by simpa using silent, .inl rfl, ?_⟩
      rintro ⟨answered, listed⟩
      have spoken := client.sent_send_of_answered method path request session listed
      simp [silent] at spoken
    · exact ⟨_, spoken, spoken, .inr rfl, fun _ => rfl⟩

end Searching

/-! ## A list with other items in it -/

/-- The characters of an answer that lists a number, a map with another name, and two with the name `b`. -/
def listing : List Char :=
  ['{', '"', 'n', '"', ':', '4', ',', '"', 'l', '"', ':', '[', '7', ',', '{', '"', 'n', '"', ':', '"',
    'a', '"', '}', ',', '{', '"', 'n', '"', ':', '"', 'b', '"', '}', ',', '{', '"', 'n', '"', ':', '"',
    'b', '"', ',', '"', 'l', '"', ':', '1', '}', ']', '}']

/-- The answer that states it. -/
def listingResponse : HttpResponse :=
  .ofUtf8 200 (listing.map fun c => UInt8.ofNat c.toNat) none ""

/-- The items of the list. -/
def listedItems : List Value :=
  [.scalar (.int 7), .map [(.text "n", .text "a")], .map [(.text "n", .text "b")],
    .map [(.text "n", .text "b"), (.text "l", .scalar (.int 1))]]

/-- What it decodes to. -/
def listedAnswer : Value :=
  .map [(.text "n", .scalar (.int 4)), (.text "l", .list listedItems)]

/-- The request for the name `b`. -/
def requestOfName : Request :=
  ⟨[("n", "a")], [("n", "b")], []⟩

theorem readChars_listing : Json.readChars listing = .ok listedAnswer := rfl

theorem decoded_listingResponse : decoded listingResponse = .ok listedAnswer :=
  decoded_ofUtf8 (by decide) (by rfl) readChars_listing

/-- A session with the backend, where nothing was sent so far. -/
def listingSession : Session (Recorded (Tapped Responding)) :=
  ⟨⟨⟨⟨listingResponse⟩, []⟩, []⟩, .start .critical false, ⟨true, false⟩, .empty (.whole 0), none⟩

theorem answer_listing :
    answer (pingClient.performBound (.list "get") "/ping" requestOfName) listingSession =
      .ok listedAnswer := by
  have allowed : pingApi.validateRequest "GET" "/ping" ["n"] ["n"] = .ok () := rfl
  have declared : pingApi.successCodes "GET" "/ping" = .ok [200] := rfl
  have outcome : (World.wire (.send (pingClient.httpRequest (Text.upper "get") "/ping" requestOfName))
      listingSession.world).1 = .ok listingResponse := rfl
  exact (answer_send_of_declared listingSession pingClient "get" "/ping" requestOfName allowed declared
    (by simp) outcome rfl).trans decoded_listingResponse

/-- The number and the map with another name are passed over, and the first map with the name is found. -/
theorem earliest_listed : Earliest requestOfName listedAnswer (.map [(.text "n", .text "b")]) := by
  have first : ∀ entry ∈ [(Scalar.text "n", Value.scalar (.int 4))], ∀ others,
      entry.2 ≠ .list others := by simp
  have passed : ∀ earlier ∈ listedItems.take 2,
      isWanted (wantedBy requestOfName) earlier = false := by decide
  refine ⟨listedItems.take 2, listedItems.drop 3, .field (.text "l") listedItems [] first,
    ⟨_, "n", "b", rfl, rfl, rfl⟩, fun earlier member fits => ?_⟩
  exact Bool.false_ne_true ((passed earlier member).symm.trans (isWanted_iff.mpr fits))

/-- The item is found by one request, which the listing sends as well. -/
theorem findBy_filters_list_named :
    answer (pingClient.performBound (.list "get") "/ping" requestOfName) listingSession =
        .ok listedAnswer ∧
      answer (pingClient.performBound (.findBy "get") "/ping" requestOfName) listingSession =
        .ok (.map [(.text "n", .text "b")]) ∧
      (final (pingClient.performBound (.findBy "get") "/ping" requestOfName) listingSession).sent =
        [pingClient.httpRequest "GET" "/ping" requestOfName] := by
  have listed := answer_listing
  have tapped := (findBy_filters_list (ω := Responding) pingClient "get" "/ping" requestOfName).2
    listingSession
  have searched := (findBy_filters_list pingClient "get" "/ping" requestOfName).1 listingSession
  simp only [listed] at searched
  obtain ⟨requests, sent, -, -, once⟩ := tapped
  rw [once ⟨_, listed⟩] at sent
  exact ⟨listed, (searched.2.found_iff _).mpr earliest_listed, sent⟩

end Client

end Reconciler
