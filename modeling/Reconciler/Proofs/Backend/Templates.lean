import Mathlib.Data.List.Perm.Basic
import Mathlib.Data.Prod.Basic
import Reconciler.Proofs.Backend.Bindings
import Reconciler.Proofs.Backend.Escapes
import Reconciler.Proofs.Text.Replacement

/-!
# Filled templates

The template of a path is made of plain texts and of places for parameters.  Parameters are put in one after
the other, into a path that holds the values of earlier ones; as no escaped value holds a brace, this comes to
the same as filling all places at once, and no value can add a place, a part of the path or a query.  A value
without a UTF-8 form cannot be put in, and then there is no address at all.
-/

namespace Reconciler

open Client (opening closing placeOf)
open Text (Point Points)

/-- A text without braces. -/
structure Braceless where
  /-- The text. -/
  text : Points
  /-- The text has no opening brace. -/
  unopened : opening ∉ text
  /-- The text has no closing brace. -/
  unclosed : closing ∉ text

/-- A part of a template. -/
inductive TemplatePart where
  /-- A text that stands for itself. -/
  | literal (text : Braceless)
  /-- A place for the value of a parameter. -/
  | place (name : Braceless)

namespace TemplatePart

/-- A part as it is written. -/
def text : TemplatePart → Points
  | .literal text => text.text
  | .place name => placeOf name.text

/-- A part with a value in its place, when there is a value for its name. -/
def filled (values : Points → Option Braceless) : TemplatePart → TemplatePart
  | .literal text => .literal text
  | .place name =>
    match values name.text with
    | some value => .literal value
    | none => .place name

/-- The part is no place that a value is put into. -/
def isKept (values : List (Points × String)) : TemplatePart → Bool
  | .literal _ => true
  | .place name => (values.lookup name.text).isNone

end TemplatePart

/-- The template of a path. -/
abbrev Template := List TemplatePart

namespace Template

/-- The path as it is written. -/
def text (template : Template) : Points :=
  template.flatMap TemplatePart.text

/-- The template with values in all places for which there is one. -/
def filled (values : Points → Option Braceless) (template : Template) : Template :=
  template.map (TemplatePart.filled values)

/-- The parts that a filled template keeps. -/
def kept (values : List (Points × String)) (template : Template) : Template :=
  template.filter (TemplatePart.isKept values)

end Template

/-! ## One parameter -/

namespace Client

variable {replacement rest name other : Points}

/-- A place begins with another one only if both have one name. -/
theorem eq_of_begins (unclosed : closing ∉ name) (other_unclosed : closing ∉ other)
    (begins : (placeOf name).isPrefixOf (placeOf other ++ rest) = true) : name = other := by
  obtain ⟨behind, same⟩ := List.isPrefixOf_iff_prefix.mp begins
  have same : name ++ closing :: behind = other ++ closing :: rest := by simpa [placeOf] using same
  have inside {text : Points} (unclosed : closing ∉ text) (behind : Points) :
      (text ++ closing :: behind).takeWhile (· != closing) = text := by
    rw [List.takeWhile_append_of_pos fun point mem => by
      simpa using fun closed : point = closing => unclosed (closed ▸ mem)]
    simp
  rw [← inside unclosed behind, same, inside other_unclosed]

/-- Another place stays. -/
theorem replaceChars_other (apart : name ≠ other) (unclosed : closing ∉ name)
    (other_unopened : opening ∉ other) (other_unclosed : closing ∉ other) :
    Text.replaceChars (placeOf name) replacement (placeOf other ++ rest) =
      placeOf other ++ Text.replaceChars (placeOf name) replacement rest := by
  have missed : (placeOf name).isPrefixOf (placeOf other ++ rest) = false :=
    Bool.eq_false_iff.mpr fun begins => apart (eq_of_begins unclosed other_unclosed begins)
  have inner : opening ∉ other ++ [closing] := by
    simpa [opening, closing] using other_unopened
  unfold placeOf at missed ⊢
  rw [List.cons_append] at missed ⊢
  rw [Text.replaceChars_cons_of_missed missed, Text.replaceChars_append inner, List.cons_append]

theorem fillPath_cons (path name value : Points) (parameters : List (Points × Points)) :
    fillPath path ((name, value) :: parameters) =
      escape value >>= fun form =>
        fillPath (Text.replaceChars (placeOf name) form path) parameters := by
  rw [fillPath, List.foldlM_cons, bind_assoc]
  rfl

/-- A path is not filled with values of which one has no UTF-8 form. -/
theorem fillPath_of_not_hasUtf8 {parameters : List (Points × Points)}
    (torn : ∃ parameter ∈ parameters, ¬parameter.2.HasUtf8) (path : Points) :
    ∃ surrogates, fillPath path parameters = .error (.shape (.lone surrogates)) := by
  induction parameters generalizing path with
  | nil => simp at torn
  | cons parameter parameters ih =>
      obtain ⟨name, value⟩ := parameter
      rw [fillPath_cons]
      by_cases encodable : value.HasUtf8
      · obtain ⟨s, rfl⟩ := encodable.exists_ofString
        have behind : ∃ parameter ∈ parameters, ¬parameter.2.HasUtf8 := by
          simpa [encodable] using torn
        rw [escape_ofString]
        exact ih behind _
      · obtain ⟨surrogates, failed⟩ := escape_of_not_hasUtf8 encodable
        exact ⟨surrogates, by rw [failed]; rfl⟩

/-! ## Strings as values -/

/-- Parameters with strings for their values. -/
def texts (values : List (Points × String)) : List (Points × Points) :=
  values.map (Prod.map id .ofString)

theorem map_fst_texts (values : List (Points × String)) :
    (texts values).map Prod.fst = values.map Prod.fst := by
  rw [texts, List.map_map]
  rfl

theorem prodMap_ofString_injective :
    (Prod.map id Points.ofString : Points × String → Points × Points).Injective :=
  Function.injective_id.prodMap fun _ _ => Points.ofString_injective

/-- Values with a UTF-8 form are strings. -/
theorem exists_texts {parameters : List (Points × Points)}
    (encodable : ∀ parameter ∈ parameters, parameter.2.HasUtf8) :
    ∃ values, parameters = texts values := by
  induction parameters with
  | nil => exact ⟨[], rfl⟩
  | cons parameter parameters ih =>
      obtain ⟨name, value⟩ := parameter
      obtain ⟨first, others⟩ := List.forall_mem_cons.mp encodable
      obtain ⟨s, rfl⟩ : ∃ s, value = .ofString s := first.exists_ofString
      obtain ⟨values, rfl⟩ := ih others
      exact ⟨(name, s) :: values, rfl⟩

end Client

open Client (escapeText texts)

/-- The form of a string in a part of a path. -/
def Braceless.escaped (s : String) : Braceless where
  text := .ofString (escapeText s)
  unopened held :=
    Client.not_mem_escapeText rfl (by decide) (Points.char_mem_ofString_iff.mp held)
  unclosed held :=
    Client.not_mem_escapeText rfl (by decide) (Points.char_mem_ofString_iff.mp held)

namespace Template

variable {template : Template} {values : List (Points × String)} {c : Char}

theorem text_cons (part : TemplatePart) (template : Template) :
    text (part :: template) = part.text ++ template.text :=
  List.flatMap_cons

/-- Replacing the place of one parameter fills the places of this name. -/
theorem replace_text (template : Template) (name value : Braceless) :
    Text.replaceChars (placeOf name.text) value.text template.text =
      (template.filled fun other => if other = name.text then some value else none).text := by
  induction template with
  | nil => rfl
  | cons part template ih =>
      rw [filled, List.map_cons, text_cons, text_cons, ← filled, ← ih]
      cases part with
      | literal text => exact Text.replaceChars_append text.unopened
      | place other =>
          rw [TemplatePart.text]
          by_cases same : other.text = name.text
          · rw [TemplatePart.filled, if_pos same, same]
            exact Text.replaceChars_word (List.cons_ne_nil _ _)
          · rw [TemplatePart.filled, if_neg same, TemplatePart.text]
            exact Client.replaceChars_other (Ne.symm same) name.unclosed other.unopened other.unclosed

/-! ## All parameters -/

theorem filled_filled (first second : Points → Option Braceless) (template : Template) :
    (template.filled first).filled second =
      template.filled fun name => (first name).or (second name) := by
  unfold filled
  rw [List.map_map]
  refine List.map_congr_left fun part _ => ?_
  cases part with
  | literal text => rfl
  | place name =>
      simp only [Function.comp_apply, TemplatePart.filled]
      cases first name.text <;> rfl

/-- Putting in parameters one after the other fills all places at once. -/
theorem fillPath_text (template : Template) (values : List (Points × String))
    (braceless : ∀ name ∈ values.map Prod.fst, opening ∉ name ∧ closing ∉ name) :
    Client.fillPath template.text (texts values) =
      .ok (template.filled fun name => (values.lookup name).map .escaped).text := by
  induction values generalizing template with
  | nil =>
      have unfilled : template.filled (fun _ => none) = template := by
        refine (List.map_congr_left fun part _ => ?_).trans (List.map_id _)
        cases part <;> rfl
      exact congrArg (Except.ok <| text ·) unfilled.symm
  | cons entry values ih =>
      obtain ⟨name, value⟩ := entry
      obtain ⟨⟨unopened, unclosed⟩, braceless⟩ := List.forall_mem_cons.mp braceless
      have put := replace_text template ⟨name, unopened, unclosed⟩ (.escaped value)
      rw [texts, List.map_cons, Prod.map_apply, ← texts, Client.fillPath_cons, Client.escape_ofString]
      refine (congrArg (Client.fillPath · _) put).trans ?_
      rw [ih _ braceless, filled_filled]
      refine congrArg (Except.ok <| text <| filled · template) (funext fun other => ?_)
      rw [List.lookup_cons]
      by_cases same : other = name
      · simp [same]
      · simp [same, beq_eq_false_iff_ne.mpr same]

/-- A reserved character stands in a filled path only where a kept part holds it. -/
theorem count_filled (reserved : Client.isUnreserved c = false) (apart : c ≠ '%') :
    (template.filled fun name => (values.lookup name).map .escaped).text.count (.char c) =
      (template.kept values).text.count (.char c) := by
  induction template with
  | nil => rfl
  | cons part template ih =>
      rw [filled, List.map_cons, text_cons, List.count_append, ← filled, ih]
      cases part with
      | literal text => exact List.count_append.symm
      | place name =>
          cases found : values.lookup name.text with
          | none => simp [kept, TemplatePart.filled, TemplatePart.isKept, found, text_cons]
          | some value =>
              have absent : Point.char c ∉ (Braceless.escaped value).text := fun held =>
                Client.not_mem_escapeText reserved apart (Points.char_mem_ofString_iff.mp held)
              simp [kept, TemplatePart.filled, TemplatePart.isKept, found, TemplatePart.text,
                List.count_eq_zero_of_not_mem absent]

end Template

/-! ## Addresses -/

namespace Client

/-- The address of a request is the filled template behind the address of the backend: each place whose name
is that of a parameter holds the escaped value, and everything else stands as written.  That is so whenever
all values have a UTF-8 form; with another value, there is no address. -/
theorem url_text (client : Client) (template : Template) (parameters : List (Points × Points))
    (braceless : ∀ name ∈ parameters.map Prod.fst, opening ∉ name ∧ closing ∉ name) :
    ((∀ parameter ∈ parameters, parameter.2.HasUtf8) →
      ∃ values, parameters = texts values ∧
        client.url template.text parameters =
          .ok (.ofString client.baseUrl ++
            (template.filled fun name => (values.lookup name).map .escaped).text) ∧
        ((parameters.map Prod.fst).Nodup → ∀ other, other.Perm parameters →
          client.url template.text other = client.url template.text parameters) ∧
        (∀ path, fillPath template.text parameters = .ok path → ∀ c ∈ ['/', '?', '#'],
          path.count (.char c) = (template.kept values).text.count (.char c)) ∧
        ∀ value, ∃ written, (Braceless.escaped value).text = .ofString written ∧
          Place.unescaped written.toList = value) ∧
    ((∃ parameter ∈ parameters, ¬parameter.2.HasUtf8) →
      ∃ surrogates, client.url template.text parameters = .error (.shape (.lone surrogates))) := by
  refine ⟨fun encodable => ?_, fun torn => ?_⟩
  · obtain ⟨values, rfl⟩ := exists_texts encodable
    rw [map_fst_texts] at braceless
    have path := template.fillPath_text values braceless
    refine ⟨values, rfl, by rw [url, path]; rfl, fun nodup other same => ?_, fun _ done c mem => ?_,
      fun value => ⟨escapeText value, rfl, unescaped_escapeText value⟩⟩
    · obtain ⟨other_values, rfl⟩ := exists_texts fun parameter mem =>
        encodable parameter (same.mem_iff.mp mem)
      have same_values := (List.map_perm_map_iff prodMap_ofString_injective).mp same
      have other_path := template.fillPath_text other_values fun name mem =>
        braceless name ((same_values.map Prod.fst).mem_iff.mp mem)
      rw [map_fst_texts] at nodup
      rw [url, url, path, other_path]
      simp only [Bindings.lookup_of_perm nodup same_values]
    · have reserved : ∀ c ∈ ['/', '?', '#'], isUnreserved c = false ∧ c ≠ '%' := by
        rw [List.forall_mem_cons, List.forall_mem_cons, List.forall_mem_singleton]
        decide
      obtain rfl := Except.ok.inj (path.symm.trans done)
      exact Template.count_filled (reserved c mem).1 (reserved c mem).2
  · obtain ⟨surrogates, failed⟩ := fillPath_of_not_hasUtf8 torn template.text
    exact ⟨surrogates, by rw [url, failed]; rfl⟩

/-- A client of a backend without operations. -/
def siteClient : Client :=
  ⟨⟨.map [], ""⟩, "https://api.example.org", none, .whole 30, false⟩

/-- A template with two places for one parameter, beside a place for another one and a place for none. -/
def siteTemplate : Template :=
  [.literal ⟨.ofString "/hosts/", by decide, by decide⟩,
    .place ⟨.ofString "region", by decide, by decide⟩, .place ⟨.ofString "zone", by decide, by decide⟩,
    .literal ⟨.ofString "?of=", by decide, by decide⟩,
    .place ⟨.ofString "region", by decide, by decide⟩, .place ⟨.ofString "rest", by decide, by decide⟩]

/-- Parameters, of which the value of the first is the place of the second. -/
def siteValues : List (Points × String) :=
  [(.ofString "region", "\x7bzone\x7d/é"), (.ofString "zone", "%2F?")]

theorem url_text_site :
    (∀ name ∈ (texts siteValues).map Prod.fst, opening ∉ name ∧ closing ∉ name) ∧
      (∀ parameter ∈ texts siteValues, parameter.2.HasUtf8) ∧
      siteClient.url (.ofString "/hosts/\x7bregion\x7d\x7bzone\x7d?of=\x7bregion\x7d\x7brest\x7d")
          (texts siteValues) =
        .ok (.ofString ("https://api.example.org/hosts/%7Bzone%7D%2F%C3%A9%252F%3F" ++
          "?of=%7Bzone%7D%2F%C3%A9\x7brest\x7d")) := by
  have braceless : ∀ name ∈ (texts siteValues).map Prod.fst, opening ∉ name ∧ closing ∉ name := by
    decide
  have encodable : ∀ parameter ∈ texts siteValues, parameter.2.HasUtf8 := by
    simp [texts, siteValues, Points.hasUtf8_ofString]
  have written : siteTemplate.text =
      .ofString "/hosts/\x7bregion\x7d\x7bzone\x7d?of=\x7bregion\x7d\x7brest\x7d" := by
    decide +kernel
  obtain ⟨values, same, address, -⟩ :=
    (url_text siteClient siteTemplate (texts siteValues) braceless).1 encodable
  obtain rfl : siteValues = values := List.map_injective_iff.mpr prodMap_ofString_injective same
  rw [written] at address
  refine ⟨braceless, encodable, address.trans (congrArg Except.ok ?_)⟩
  decide +kernel

/-- What stands in front of a repository. -/
def reposLiteral : TemplatePart :=
  .literal ⟨.ofString "/repos/", by decide, by decide⟩

/-- The place of an identifier. -/
def idPlace : TemplatePart :=
  .place ⟨.ofString "id", by decide, by decide⟩

/-- A template with a place. -/
def itemTemplate : Template :=
  [reposLiteral, idPlace]

/-- With a surrogate for a value there is no address, although the name of the parameter has no brace. -/
theorem url_text_surrogate :
    (∀ name ∈ [Points.ofString "id"], opening ∉ name ∧ closing ∉ name) ∧
      siteClient.url itemTemplate.text [(.ofString "id", [.surrogate 0])] =
        .error (.shape (.lone ⟨0, 0, 0⟩)) :=
  ⟨by decide, rfl⟩

end Client

/-! ## Strings as paths and names -/

namespace Bindings

/-- Bindings of texts. -/
def named (parameters : Bindings) : List (Points × String) :=
  parameters.map (Prod.map .ofString id)

theorem lookup_named (parameters : Bindings) (name : String) :
    parameters.named.lookup (.ofString name) = parameters.get? name := by
  induction parameters with
  | nil => rfl
  | cons entry parameters ih =>
      obtain ⟨own, value⟩ := entry
      rw [get?_cons, ← ih, named, List.map_cons, Prod.map_apply, List.lookup_cons, ← named]
      by_cases same : name = own
      · simp [same]
      · have apart : Points.ofString name ≠ .ofString own := fun eq => same (Points.ofString_injective eq)
        simp [same, beq_eq_false_iff_ne.mpr apart]

end Bindings

namespace Client

theorem placeOf_ofString (name : String) :
    placeOf (.ofString name) = .ofString ("\x7b" ++ name ++ "\x7d") := by
  rw [Points.ofString_append, Points.ofString_append]
  rfl

theorem replaceChars_ofString {word : String} (nonempty : word.toList ≠ []) (replacement s : String) :
    Text.replaceChars (Points.ofString word) (Points.ofString replacement) (Points.ofString s) =
      Points.ofString (Text.replace word replacement s) := by
  rw [Text.replace, Points.ofString, Points.ofString, Points.ofString, Points.ofString,
    String.toList_ofList]
  exact Text.replaceChars_map (fun _ _ => Point.char.inj) nonempty _ _

/-- A path and strings are filled like their texts. -/
theorem fillPath_ofString (path : String) (parameters : Bindings) :
    fillPath (.ofString path) (texts parameters.named) = .ok (.ofString (fillText path parameters)) := by
  induction parameters generalizing path with
  | nil => rfl
  | cons entry parameters ih =>
      obtain ⟨name, value⟩ := entry
      have nonempty : ("\x7b" ++ name ++ "\x7d").toList ≠ [] := by simp
      have put := replaceChars_ofString nonempty (escapeText value) path
      rw [← placeOf_ofString] at put
      rw [Bindings.named, texts, List.map_cons, List.map_cons, ← Bindings.named, ← texts]
      refine (fillPath_cons _ _ _ _).trans ?_
      rw [escape_ofString]
      exact (congrArg (fillPath · _) put).trans (ih _)

/-- The address that a request is sent to is the one for the texts of its path and its parameters. -/
theorem url_ofString (client : Client) (path : String) (parameters : Bindings) :
    client.url (.ofString path) (texts parameters.named) =
      .ok (.ofString (client.address path parameters)) := by
  rw [url, fillPath_ofString, address, Points.ofString_append]
  rfl

end Client

end Reconciler
