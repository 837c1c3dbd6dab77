import Reconciler.Proofs.Backend.Binding
import Reconciler.Proofs.Backend.Templates
import Reconciler.Proofs.Document.Status

/-!
# Identifiers in addresses

An identifier that the backend states is noted in the observed state, takes the place of a field of the
desired state, is bound to the path parameter that it is called in the backend, and stands escaped in the
address.  On the whole way it stays one text: that is how the requests that follow reach the resource that
was answered.
-/

namespace Reconciler

open Client (opening closing)
open Document
open Text (Points)

namespace Value

theorem hasRoom_of_write {v value written : Value} {key name : String}
    (done : v.write [key, name] value = .ok written) : v.HasRoom key := by
  cases v with
  | scalar s => simp [write] at done
  | list items => simp [write] at done
  | map fields =>
      rw [hasRoom_map_iff]
      unfold write at done
      cases found : Fields.get? fields key with
      | none => exact .inl rfl
      | some inner =>
          cases inner with
          | map entries => exact .inr ⟨entries, rfl⟩
          | scalar s => simp [found, write] at done
          | list items => simp [found, write] at done

end Value

namespace Document

variable {doc : Document} {identifiers : List String} {body : Value} {name text : String} {status : Fields}

theorem exists_statusFields_of_setField {value : Value}
    (done : answer (setField ["status", name] value) doc = .ok ()) :
    ∃ status, doc.statusFields = .ok status := by
  have room : doc.object.HasRoom "status" := by
    change answer (ofExcept (doc.withField ["status", name] value) >>= set) doc = .ok () at done
    rw [answer_bind, answer_ofExcept, withField, if_neg (by simp)] at done
    cases written : doc.object.write ["status", name] value with
    | ok object => exact Value.hasRoom_of_write written
    | error fault =>
        rw [written] at done
        cases fault with
        | absent => contradiction
        | notMap depth got => cases depth <;> contradiction
  rcases room with absent | ⟨entries, found⟩
  · exact ⟨[], topLevelFields_eq_ok_iff.mpr (.inl ⟨absent, rfl⟩)⟩
  · exact ⟨entries, topLevelFields_eq_ok_iff.mpr (.inr found)⟩

/-- Where an identifier was noted, the observed state is a map. -/
theorem exists_statusFields_of_writeIdentifiers (own : name ∈ identifiers)
    (states : statedText? body name = some (.ok text))
    (wrote : answer (writeIdentifiers identifiers body) doc = .ok ()) :
    ∃ status, doc.statusFields = .ok status := by
  rw [writeIdentifiers_eq] at wrote
  induction identifiers with
  | nil => contradiction
  | cons first rest ih =>
      change answer (noteIdentifier body first >>= fun _ => rest.forM _) doc = .ok () at wrote
      rw [answer_bind] at wrote
      cases first_states : statedText? body first with
      | none =>
          have silent : noteIdentifier body first = pure () := by
            rw [noteIdentifier, first_states]
          rw [silent] at wrote
          refine ih ((List.mem_cons.mp own).resolve_left fun same => ?_) wrote
          rw [← same, states] at first_states
          contradiction
      | some stated =>
          cases stated with
          | error failure =>
              have failed : noteIdentifier body first = (do
                  setField ["status", first] (.text (← ofExcept (.error failure)))) := by
                rw [noteIdentifier, first_states]
              rw [failed] at wrote
              contradiction
          | ok noted =>
              have noting : noteIdentifier body first = setField ["status", first] (.text noted) := by
                rw [noteIdentifier, first_states]
                rfl
              rw [noting] at wrote
              cases done : answer (setField ["status", first] (.text noted)) doc with
              | ok _ => exact exists_statusFields_of_setField done
              | error failure =>
                  rw [done] at wrote
                  contradiction

theorem distinct_noted (distinct : status.Distinct) (body : Value) (identifiers : List String) :
    (noted body identifiers status).Distinct := by
  induction identifiers generalizing status with
  | nil => exact distinct
  | cons name rest ih =>
      rw [noted_cons]
      refine ih ?_
      split
      · exact distinct.put _ _
      · exact distinct

/-- The observed state that has an identifier noted. -/
theorem exists_noted (distinct : ∀ status, doc.statusFields = .ok status → status.Distinct)
    (own : name ∈ identifiers) (states : statedText? body name = some (.ok text))
    (wrote : answer (writeIdentifiers identifiers body) doc = .ok ()) :
    ∃ status, (final (writeIdentifiers identifiers body) doc).statusFields = .ok status ∧
      status.Distinct ∧ status.get? name = some (.text text) := by
  obtain ⟨status, stated⟩ := exists_statusFields_of_writeIdentifiers own states wrote
  rcases writeIdentifiers_cases stated identifiers body with ⟨-, left⟩ | ⟨_, -, failure, -, failed⟩
  · exact ⟨_, left, distinct_noted (distinct status stated) body identifiers,
      get?_noted own states status⟩
  · rw [failed] at wrote
    contradiction

/-- Identifiers are noted on a map, where the numbers that the answer states for them are finite. -/
theorem answer_writeIdentifiers (finite : FiniteNumbers body identifiers)
    (stated : ∃ status, doc.statusFields = .ok status) :
    answer (writeIdentifiers identifiers body) doc = .ok () := by
  obtain ⟨status, stated⟩ := stated
  rcases writeIdentifiers_cases stated identifiers body with ⟨wrote, -⟩ | ⟨_, own, failure, states, -⟩
  · exact wrote
  · exact absurd states (finite.statedText?_ne_error own failure)

end Document

namespace Call

variable {call : Call} {request : Request} {status spec : Fields} {name own text : String}

/-- A field is called as a path parameter in the backend, and no other one is. -/
structure GivesPath (call : Call) (fields : Fields) (own name : String) : Prop where
  /-- The field has the name in the backend. -/
  named : target call.renames (.text own) = .text name
  /-- A path parameter has the name. -/
  declared : name ∈ call.pathNames
  /-- No other field has the name. -/
  alone : ∀ field ∈ fields, target call.renames field.1 = .text name → field.1 = .text own

/-- A field of the observed state that gives a path parameter alone gives it its text. -/
theorem GivesPath.get?_path (gives : call.GivesPath (spec ++ status) own name)
    (distinct : status.Distinct) (found : status.get? own = some (.text text))
    (built : call.request status spec = .ok request) : request.path.get? name = some text := by
  have last : call.lastNamed name (fieldsOf status spec) = some (.text own, .text text) := by
    refine lastNamed_of_mem (distinct_fieldsOf status spec) (mem_fieldsOf distinct found)
      gives.named ?_
    rintro ⟨key, value⟩ member other_named
    cases key with
    | text other =>
        obtain ⟨stated, stated_member, same⟩ :=
          List.mem_map.mp (text_mem_keys_fieldsOf.mp (List.mem_map_of_mem member))
        exact same ▸ gives.alone stated stated_member (same ▸ other_named)
    | _ => simp [target] at other_named
  have bound := get?_path_of_foldlM gives.declared
    (show (fieldsOf status spec).foldlM call.bindField .empty = .ok request from built)
  rw [last] at bound
  obtain ⟨written, same, bound⟩ := bound
  obtain rfl := Except.ok.inj same
  exact bound

end Call

namespace Client

open Call

variable {doc : Document} {identifiers : List String} {body : Value} {name text : String}

/-- The address for a template has the values of the parameters in its places, and what stands at each place
of one of them reads as a text. -/
def Shows (client : Client) (template : Template) (parameters : Bindings) (name text : String) : Prop :=
  ∃ values : Points → Option Braceless,
    (∀ other, values other = (parameters.named.lookup other).map .escaped) ∧
      client.url template.text (texts parameters.named) =
        .ok (.ofString client.baseUrl ++ (template.filled values).text) ∧
        ∃ part written, values (.ofString name) = some part ∧ part.text = .ofString written ∧
          Place.unescaped written.toList = text

theorem shows_of_get? {parameters : Bindings} (found : parameters.get? name = some text)
    (braceless : ∀ other ∈ parameters.names, '\x7b' ∉ other.toList ∧ '\x7d' ∉ other.toList)
    (client : Client) (template : Template) : client.Shows template parameters name text := by
  have placed : ∀ other ∈ parameters.named.map Prod.fst, opening ∉ other ∧ closing ∉ other := by
    intro other mem
    rw [Bindings.named, List.map_map] at mem
    obtain ⟨entry, bound, rfl⟩ := List.mem_map.mp mem
    obtain ⟨unopened, unclosed⟩ := braceless entry.1 (List.mem_map_of_mem bound)
    exact ⟨fun held => unopened (Points.char_mem_ofString_iff.mp held),
      fun held => unclosed (Points.char_mem_ofString_iff.mp held)⟩
  refine ⟨_, fun _ => rfl, ?_, .escaped text, escapeText text, ?_, rfl, unescaped_escapeText text⟩
  · rw [url, template.fillPath_text parameters.named placed]
    rfl
  · rw [parameters.lookup_named, found]
    rfl

/-- An identifier that an answer states, as a text or as a whole number, is noted, and is what the address of
a request from the document shows at each place of the path parameter that the identifier alone gives. -/
theorem url_of_writeIdentifiers
    (distinct : ∀ status, doc.statusFields = .ok status → status.Distinct) (own : name ∈ identifiers)
    (stated : body.get? name = some (.text text) ∨
      ∃ n : Int, body.get? name = some (.int n) ∧ text = toString n) :
    (FiniteNumbers body identifiers → (∃ status, doc.statusFields = .ok status) →
      answer (writeIdentifiers identifiers body) doc = .ok ()) ∧
    (answer (writeIdentifiers identifiers body) doc = .ok () →
      ∃ status, (final (writeIdentifiers identifiers body) doc).statusFields = .ok status ∧
        ∀ spec, (final (writeIdentifiers identifiers body) doc).specFields = .ok spec →
          ∀ (call : Call) (parameter : String), call.GivesPath (spec ++ status) name parameter →
            ((∀ field ∈ fieldsOf status spec, call.TakesText field.1 → field.2.IsFinite) →
              ∃ request, call.request status spec = .ok request) ∧
            ∀ request, call.request status spec = .ok request →
              (∀ other ∈ request.path.names, '\x7b' ∉ other.toList ∧ '\x7d' ∉ other.toList) →
              ∀ (client : Client) (template : Template),
                client.Shows template request.path parameter text) := by
  refine ⟨answer_writeIdentifiers, fun wrote => ?_⟩
  have states : statedText? body name = some (.ok text) := by
    unfold statedText?
    rcases stated with found | ⟨n, found, rfl⟩ <;> rw [found] <;> rfl
  obtain ⟨status, noted, noted_distinct, found⟩ := exists_noted distinct own states wrote
  refine ⟨status, noted, fun spec _ call parameter gives => ⟨(exists_foldlM_iff .empty).mpr, ?_⟩⟩
  intro request built braceless
  exact shows_of_get? (gives.get?_path noted_distinct found built) braceless

/-- A document with a field of its own under the name of an identifier. -/
def staleRepo : Document :=
  .ofObject (.map [(.text "spec", .map [(.text "id", .text "old"), (.text "name", .text "demo")])])

/-- The answer that states the identifier as a number. -/
def numberedAnswer : Value :=
  .map [(.text "id", .int 7)]

/-- The call that deletes a repository, where the identifier has another name. -/
def repoCall : Call :=
  { action := .delete, kind := .delete, method := "DELETE", path := "/repos/\x7brepoId\x7d"
    pathNames := ["repoId"], queryNames := [], bodyNames := [], identifiers := ["id"]
    renames := [("id", "repoId")] }

/-- The path of the call as a template. -/
def repoTemplate : Template :=
  [reposLiteral, .place ⟨.ofString "repoId", by decide, by decide⟩]

theorem url_of_writeIdentifiers_stale :
    answer (writeIdentifiers ["id"] numberedAnswer) staleRepo = .ok () ∧
      ∃ request, repoCall.request [(.text "id", .text "7")]
          [(.text "id", .text "old"), (.text "name", .text "demo")] = .ok request ∧
        siteClient.url (.ofString "/repos/\x7brepoId\x7d") (texts request.path.named) =
          .ok (.ofString "https://api.example.org/repos/7") := by
  have distinct (status : Fields) (stated : staleRepo.statusFields = .ok status) : status.Distinct := by
    obtain rfl := Except.ok.inj (stated : Except.ok [] = _)
    exact .nil
  have finite : FiniteNumbers numberedAnswer ["id"] := by
    intro name own x found
    rw [List.mem_singleton.mp own] at found
    have number : numberedAnswer.get? "id" = some (.int 7) := rfl
    simp [number] at found
  obtain ⟨writes, reaches⟩ := url_of_writeIdentifiers distinct (List.mem_singleton_self "id")
    (.inr ⟨7, (rfl : numberedAnswer.get? "id" = _), rfl⟩)
  have wrote : answer (writeIdentifiers ["id"] numberedAnswer) staleRepo = .ok () :=
    writes finite ⟨[], rfl⟩
  obtain ⟨status, noted, requests⟩ := reaches wrote
  obtain rfl : [(.text "id", .text "7")] = status := Except.ok.inj noted
  have gives : repoCall.GivesPath ([(.text "id", .text "old"), (.text "name", .text "demo")] ++
      [(.text "id", .text "7")]) "id" "repoId" :=
    ⟨rfl, List.mem_cons_self, by simp [target, repoCall, Bindings.get?]⟩
  have addresses := (requests _ rfl repoCall "repoId" gives).2
  have built : repoCall.request [(.text "id", .text "7")]
      [(.text "id", .text "old"), (.text "name", .text "demo")] = .ok ⟨[("repoId", "7")], [], []⟩ := rfl
  obtain ⟨values, escaped, address, -⟩ := addresses _ built (by decide) siteClient repoTemplate
  have written : repoTemplate.text = .ofString "/repos/\x7brepoId\x7d" := by decide +kernel
  refine ⟨wrote, _, built, ?_⟩
  rw [← written, address, funext escaped]
  exact congrArg Except.ok (by decide +kernel)

/-- A document whose first field has the name of a parameter that holds braces. -/
def bracedRepo : Document :=
  .ofObject (.map [(.text "spec",
    .map [(.text "org\x7d/\x7bid", .text "x"), (.text "org", .text "acme")])])

/-- The answer that states the identifier as a text. -/
def namedAnswer : Value :=
  .map [(.text "id", .text "7")]

/-- The call with a path parameter whose name holds braces. -/
def bracedCall : Call :=
  { action := .delete, kind := .delete, method := "DELETE", path := "/repos/\x7borg\x7d/\x7bid\x7d"
    pathNames := ["org\x7d/\x7bid", "org", "id"], queryNames := [], bodyNames := []
    identifiers := ["id"], renames := [] }

/-- The path of the call as a template. -/
def orgTemplate : Template :=
  [reposLiteral, .place ⟨.ofString "org", by decide, by decide⟩,
    .literal ⟨.ofString "/", by decide, by decide⟩, idPlace]

/-- A parameter whose name holds braces takes the place of the identifier away: the address has a part less
than the template, whatever stands in its places.  And an identifier that is a surrogate has no address. -/
theorem url_of_writeIdentifiers_braced :
    (answer (writeIdentifiers ["id"] namedAnswer) bracedRepo = .ok () ∧
      ∃ status spec request,
        (final (writeIdentifiers ["id"] namedAnswer) bracedRepo).statusFields = .ok status ∧
        (final (writeIdentifiers ["id"] namedAnswer) bracedRepo).specFields = .ok spec ∧
        bracedCall.GivesPath (spec ++ status) "id" "id" ∧
        bracedCall.request status spec = .ok request ∧
        ∀ values : Points → Option Braceless,
          siteClient.url orgTemplate.text (texts request.path.named) ≠
            .ok (.ofString siteClient.baseUrl ++ (orgTemplate.filled values).text)) ∧
      siteClient.url orgTemplate.text
          [(.ofString "org", .ofString "acme"), (.ofString "id", [.surrogate 0])] =
        .error (.shape (.lone ⟨0, 0, 0⟩)) := by
  refine ⟨⟨rfl, _, _, ⟨[("org\x7d/\x7bid", "x"), ("org", "acme"), ("id", "7")], [], []⟩, rfl, rfl, ?_,
    rfl, fun values same => ?_⟩, rfl⟩
  · exact ⟨rfl, by decide, by simp [target, bracedCall, Bindings.get?]⟩
  · have shown : siteClient.url orgTemplate.text
        (texts (Bindings.named [("org\x7d/\x7bid", "x"), ("org", "acme"), ("id", "7")])) =
          .ok (.ofString siteClient.baseUrl ++ .ofString "/repos/x") := rfl
    have path : Points.ofString "/repos/x" = (orgTemplate.filled values).text :=
      List.append_cancel_left (Except.ok.inj (shown.symm.trans same))
    have slashes := congrArg (List.count (.char '/')) path
    have two : (Points.ofString "/repos/x").count (.char '/') = 2 := rfl
    have first_two : (Points.ofString "/repos/").count (.char '/') = 2 := rfl
    have third : (Points.ofString "/").count (.char '/') = 1 := rfl
    simp only [orgTemplate, reposLiteral, idPlace, Template.filled, List.map_cons, Template.text_cons,
      TemplatePart.filled, List.count_append, two, TemplatePart.text, first_two, third] at slashes
    omega

end Client

end Reconciler
