import Reconciler.Description.Basic
import Reconciler.Proofs.Text.Numerals
import Reconciler.Proofs.Text.Replacement

/-!
# Pointers into a document

A path of keys and of places in lists is written as a pointer, in which the characters that have a meaning of
their own are escaped.  Resolving the pointer takes the path: it arrives at the node of the path, or reports
that there is none.  The one exception is a numeral that is not read: at a list it ends the search with a
failure of another kind.
-/

namespace Reconciler.Pointer

/-! ## Paths -/

/-- A step of a path into a document. -/
inductive Step where
  /-- To the value under a key. -/
  | key (name : String)
  /-- To the item in a place. -/
  | index (place : Nat)

/-- The text is written with digits alone. -/
def isNumeral (name : String) : Bool :=
  !name.isEmpty && name.toList.all Text.isDigitSign

namespace Step

/-- The text of a step: the key, or the place in decimal form. -/
def text : Step → String
  | .key name => name
  | .index place => place.repr

/-- The place in a list that a step stands for; a key stands for one when it is a numeral. -/
def place? : Step → Option Nat
  | .key name => if isNumeral name then (wholeOfText? name).map Int.toNat else none
  | .index place => some place

/-- A number can be read from the step, if it is a place or a numeral. -/
def IsReadable : Step → Prop
  | .key name => isNumeral name = true → (wholeOfText? name).isSome = true
  | .index place => place < 10 ^ Text.digitLimit

end Step

/-- The node that a step leads to. -/
def child? (node : Value) (step : Step) : Option Value :=
  match node with
  | .map fields => Fields.get? fields step.text
  | .list items => step.place?.bind fun place => items[place]?
  | .scalar _ => none

/-- The node that a path leads to. -/
def nodeAt? (node : Value) (steps : List Step) : Option Value :=
  steps.foldlM child? node

@[simp]
theorem child?_key (fields : Fields) (name : String) :
    child? (.map fields) (.key name) = fields.get? name := rfl

@[simp]
theorem child?_index (items : List Value) (place : Nat) :
    child? (.list items) (.index place) = items[place]? := rfl

@[simp]
theorem child?_scalar (s : Scalar) (step : Step) : child? (.scalar s) step = none := rfl

theorem child?_behind {items : List Value} {place : Nat} (behind : items.length ≤ place) :
    child? (.list items) (.index place) = none :=
  List.getElem?_eq_none behind

/-- At each list on the way, a number can be read from the step that is taken. -/
def Legible : Value → List Step → Prop
  | _, [] => True
  | node, step :: rest =>
    ((∃ items, node = .list items) → step.IsReadable) ∧
      ∀ next, child? node step = some next → Legible next rest

variable {node next : Value} {step : Step} {steps rest : List Step}

/-! ## Written paths -/

/-- The form of a character in a pointer. -/
def escapeChar (c : Char) : List Char :=
  if c = '~' then ['~', '0'] else if c = '/' then ['~', '1'] else [c]

/-- The form of a text in a pointer. -/
def escape (s : String) : String :=
  String.ofList (s.toList.flatMap escapeChar)

/-- The pointer that is written of a path. -/
def written (steps : List Step) : String :=
  "#/" ++ "/".intercalate (steps.map fun step => escape step.text)

theorem slash_notMem_escape (s : String) : '/' ∉ (escape s).toList := by
  rw [escape, String.toList_ofList, List.mem_flatMap]
  rintro ⟨c, -, mem⟩
  unfold escapeChar at mem
  split at mem
  · simp at mem
  · split at mem
    · simp at mem
    next apart => exact apart (List.mem_singleton.mp mem).symm

theorem escape_eq_empty {s : String} (empty : (escape s).toList = []) : s = "" := by
  rw [escape, String.toList_ofList, List.flatMap_eq_nil_iff] at empty
  refine String.toList_inj.mp (List.eq_nil_iff_forall_not_mem.mpr fun c mem => ?_)
  have gone := empty c mem
  unfold escapeChar at gone
  split at gone
  · contradiction
  · split at gone <;> contradiction

/-- The form of a character when the escapes of slashes are undone. -/
def escapeTilde (c : Char) : List Char :=
  if c = '~' then ['~', '0'] else [c]

theorem replaceChars_escape (cs : List Char) :
    Text.replaceChars ['~', '1'] ['/'] (cs.flatMap escapeChar) = cs.flatMap escapeTilde := by
  induction cs with
  | nil => rfl
  | cons c cs ih =>
      rw [List.flatMap_cons, List.flatMap_cons, ← ih]
      by_cases tilde : c = '~'
      · subst tilde
        rw [show escapeChar '~' = ['~', '0'] from rfl, List.cons_append, List.cons_append,
          Text.replaceChars_cons_of_missed (by simp [List.isPrefixOf]),
          Text.replaceChars_cons_of_missed (by simp [List.isPrefixOf])]
        rfl
      · by_cases slash : c = '/'
        · subst slash
          exact Text.replaceChars_word (by simp)
        · rw [escapeChar, if_neg tilde, if_neg slash, escapeTilde, if_neg tilde]
          exact Text.replaceChars_append (by simpa using Ne.symm tilde)

theorem replaceChars_escapeTilde (cs : List Char) :
    Text.replaceChars ['~', '0'] ['~'] (cs.flatMap escapeTilde) = cs := by
  induction cs with
  | nil => rfl
  | cons c cs ih =>
      rw [List.flatMap_cons]
      by_cases tilde : c = '~'
      · subst tilde
        rw [show escapeTilde '~' = ['~', '0'] from rfl, Text.replaceChars_word (by simp), ih]
        rfl
      · rw [escapeTilde, if_neg tilde, Text.replaceChars_append (by simpa using Ne.symm tilde), ih]
        rfl

/-- What is escaped is read back: the escapes of slashes are undone first, so that a tilde in front of a one
comes out as it was. -/
theorem unescape_escape (s : String) : Description.unescape (escape s) = s := by
  simp only [Description.unescape, Text.replace, escape, String.toList_ofList]
  calc
    String.ofList (Text.replaceChars ['~', '0'] ['~']
        (Text.replaceChars ['~', '1'] ['/'] (s.toList.flatMap escapeChar))) = String.ofList s.toList := by
      rw [replaceChars_escape, replaceChars_escapeTilde]
    _ = s := String.ofList_toList

/-! ## Splitting -/

theorem splitChars_of_notMem {separator : Char} {piece : List Char} (absent : separator ∉ piece) :
    Text.splitChars separator piece = [piece] := by
  induction piece with
  | nil => rfl
  | cons c piece ih =>
      rw [List.mem_cons, not_or] at absent
      rw [Text.splitChars, if_neg (by simpa using Ne.symm absent.1), ih absent.2]

theorem splitChars_append {separator : Char} {piece : List Char} (absent : separator ∉ piece)
    (rest : List Char) : Text.splitChars separator (piece ++ separator :: rest) =
      piece :: Text.splitChars separator rest := by
  induction piece with
  | nil => rw [List.nil_append, Text.splitChars, if_pos (by simp)]
  | cons c piece ih =>
      rw [List.mem_cons, not_or] at absent
      rw [List.cons_append, Text.splitChars, if_neg (by simpa using Ne.symm absent.1), ih absent.2]

/-- Joined pieces without the separator in them are found again. -/
theorem splitChars_intercalate {separator : Char} {pieces : List (List Char)} (nonempty : pieces ≠ [])
    (absent : ∀ piece ∈ pieces, separator ∉ piece) :
    Text.splitChars separator ([separator].intercalate pieces) = pieces := by
  induction pieces with
  | nil => contradiction
  | cons piece pieces ih =>
      rw [List.forall_mem_cons] at absent
      cases pieces with
      | nil =>
          rw [List.intercalate_singleton]
          exact splitChars_of_notMem absent.1
      | cons next pieces =>
          rw [List.intercalate_cons_cons, List.append_assoc, List.singleton_append,
            splitChars_append absent.1, ih (List.cons_ne_nil _ _) absent.2]

/-- The characters of a pointer behind its first slash. -/
def joined (steps : List Step) : List Char :=
  ['/'].intercalate (steps.map fun step => (escape step.text).toList)

theorem toList_written (steps : List Step) : (written steps).toList = '#' :: '/' :: joined steps := by
  rw [written, String.toList_append, String.toList_intercalate, List.map_map]
  rfl

/-- Behind the first slash stands no other one, as the first step has a text. -/
theorem dropWhile_joined {first : Step} (named : first.text ≠ "") (rest : List Step) :
    (joined (first :: rest)).dropWhile (· == '/') = joined (first :: rest) := by
  obtain ⟨c, tail, text⟩ := List.exists_cons_of_ne_nil (mt escape_eq_empty named)
  have apart : c ≠ '/' := by
    rintro rfl
    exact slash_notMem_escape first.text (text ▸ List.mem_cons_self)
  have starts : ∃ more, joined (first :: rest) = c :: more := by
    cases rest <;> simp [joined, text]
  obtain ⟨more, starts⟩ := starts
  rw [starts, List.dropWhile_cons_of_neg (by simpa using apart)]

/-- The steps of a written path are found again. -/
theorem pointerKeys_joined {first : Step} (named : first.text ≠ "") (rest : List Step) :
    Description.pointerKeys (String.ofList ('/' :: joined (first :: rest))) =
      (first :: rest).map Step.text := by
  have pieces : Text.splitChars '/' (joined (first :: rest)) =
      (first :: rest).map fun step => (escape step.text).toList := by
    refine splitChars_intercalate (by simp) fun piece mem => ?_
    obtain ⟨step, -, rfl⟩ := List.mem_map.mp mem
    exact slash_notMem_escape step.text
  rw [Description.pointerKeys, String.toList_ofList, List.dropWhile_cons_of_pos (by simp),
    dropWhile_joined named, Text.split, String.toList_ofList, pieces, List.map_map, List.map_map]
  refine List.map_congr_left fun step _ => ?_
  simp only [Function.comp_apply, String.ofList_toList, unescape_escape]

theorem resolve_written (d : Description) {first : Step} (named : first.text ≠ "") (rest : List Step) :
    d.resolve (.text (written (first :: rest))) =
      Description.followKeys (written (first :: rest)) d.document ((first :: rest).map Step.text) := by
  unfold Description.resolve
  simp only [toList_written, List.isEmpty_cons, Bool.false_eq_true, if_false, pointerKeys_joined named]

/-! ## The walk -/

theorem isNumeral_repr (place : Nat) : isNumeral place.repr = true := by
  have digits : place.repr.toList.all Text.isDigitSign = true :=
    List.all_eq_true.mpr fun c mem => Text.isDigitSign_of_isDigit (isDigit_of_mem_repr mem)
  have filled : place.repr.isEmpty = false := by simp
  rw [isNumeral, digits, filled]
  rfl

theorem step_list (items : List Value) (key : String) :
    Description.step (.list items) key =
      if isNumeral key then
        match wholeOfText? key with
        | some n => .ok (items[n.toNat]?)
        | none => .error (.shape (.notNumeral key))
      else .ok none := rfl

/-- A step arrives where it leads, unless it is taken at a list and no number can be read from it. -/
theorem step_of_readable (readable : (∃ items, node = .list items) → step.IsReadable) :
    Description.step node step.text = .ok (child? node step) := by
  cases node with
  | scalar s => rfl
  | map fields => rfl
  | list items =>
      have readable := readable ⟨items, rfl⟩
      rw [step_list]
      cases step with
      | index place =>
          have small : place < 10 ^ Text.digitLimit := readable
          rw [Step.text, isNumeral_repr, wholeOfText?_repr, if_pos rfl, if_pos small]
          rfl
      | key name =>
          rw [Step.text, child?, Step.place?]
          split
          next numeral =>
            obtain ⟨n, read⟩ := Option.isSome_iff_exists.mp (readable numeral)
            rw [read]
            rfl
          next => rfl

theorem step_of_unreadable (items : List Value) (unreadable : ¬step.IsReadable) :
    Description.step (.list items) step.text = .error (.shape (.notNumeral step.text)) := by
  rw [step_list]
  cases step with
  | index place =>
      have large : ¬place < 10 ^ Text.digitLimit := unreadable
      rw [Step.text, isNumeral_repr, wholeOfText?_repr, if_pos rfl, if_neg large]
  | key name =>
      obtain ⟨numeral, unread⟩ := Classical.not_imp.mp unreadable
      rw [Step.text, if_pos numeral, Option.not_isSome_iff_eq_none.mp unread]

/-- A legible path is followed to its node, or found to have none. -/
theorem followKeys_of_legible (ref : String) (legible : Legible node steps) :
    Description.followKeys ref node (steps.map Step.text) =
      match nodeAt? node steps with
      | some found => .ok found
      | none => .error (.validation (.unresolvedReference ref)) := by
  induction steps generalizing node with
  | nil => rfl
  | cons step rest ih =>
      rw [List.map_cons, Description.followKeys, step_of_readable legible.1, nodeAt?, List.foldlM_cons]
      cases stepped : child? node step with
      | none => rfl
      | some next => exact ih (legible.2 next stepped)

/-- A path that is not legible ends where a number is not read. -/
theorem followKeys_of_illegible (ref : String) (illegible : ¬Legible node steps) :
    ∃ text, Description.followKeys ref node (steps.map Step.text) = .error (.shape (.notNumeral text)) := by
  induction steps generalizing node with
  | nil => exact absurd trivial illegible
  | cons step rest ih =>
      rw [List.map_cons, Description.followKeys]
      by_cases readable : (∃ items, node = .list items) → step.IsReadable
      · rw [step_of_readable readable]
        cases stepped : child? node step with
        | none => exact absurd ⟨readable, fun next found => by simp [stepped] at found⟩ illegible
        | some next =>
            refine ih fun legible => illegible ⟨readable, fun other found => ?_⟩
            obtain rfl := Option.some.inj (stepped.symm.trans found)
            exact legible
      · obtain ⟨⟨items, rfl⟩, unreadable⟩ := Classical.not_imp.mp readable
        exact ⟨_, by rw [step_of_unreadable items unreadable]⟩

/-- Along a legible path, the pointer that is written of it leads to the node of the path, and where a step
leads nowhere, it is reported as unresolved.  Otherwise a number that is not read ends the search with a
failure that is none of validation. -/
theorem resolve_written_iff (d : Description) {first : Step} (named : first.text ≠ "") (rest : List Step) :
    let pointer := written (first :: rest)
    let outcome := d.resolve (.text pointer)
    (match nodeAt? d.document (first :: rest) with
      | some node => outcome = .ok node ↔ Legible d.document (first :: rest)
      | none => (∃ fault, outcome = .error (.validation fault)) ↔ Legible d.document (first :: rest)) ∧
      (¬Legible d.document (first :: rest) →
        ∃ text, outcome = .error (.shape (.notNumeral text))) := by
  intro pointer outcome
  have followed : outcome = Description.followKeys pointer d.document ((first :: rest).map Step.text) :=
    resolve_written d named rest
  have unread (illegible : ¬Legible d.document (first :: rest)) :
      ∃ text, outcome = .error (.shape (.notNumeral text)) :=
    followed ▸ followKeys_of_illegible pointer illegible
  refine ⟨?_, unread⟩
  by_cases legible : Legible d.document (first :: rest)
  · rw [followKeys_of_legible pointer legible] at followed
    split
    next node led => simp [followed, led, legible]
    next led => simp [followed, led, legible]
  · obtain ⟨text, failed⟩ := unread legible
    split <;> simp [failed, legible]

/-- A document with a list, under a key that needs escapes, of a number and a map. -/
def shelf : Description :=
  ⟨.map [(.text "~1/", .list [.int 4, .map [(.text "0", .int 5)]])], ""⟩

/-- The list in it. -/
def shelfItems : List Value :=
  [.int 4, .map [(.text "0", .int 5)]]

theorem ten_le_limit : 10 ≤ 10 ^ Text.digitLimit := by
  have tens : 10 ^ 1 ≤ 10 ^ Text.digitLimit := Nat.pow_le_pow_right (by decide) (by decide)
  omega

theorem isReadable_of_small {place : Nat} (small : place < 10) : (Step.index place).IsReadable := by
  have few : place < 10 ^ Text.digitLimit := Nat.lt_of_lt_of_le small ten_le_limit
  exact few

theorem child?_shelf : child? shelf.document (.key "~1/") = some (.list shelfItems) := rfl

theorem nodeAt?_shelf (step : Step) :
    nodeAt? shelf.document [.key "~1/", step] = child? (.list shelfItems) step := by
  simp [nodeAt?, child?_shelf]

/-- Only the step at the list has to be read. -/
theorem legible_shelf (readable : step.IsReadable)
    (legible : ∀ next, child? (.list shelfItems) step = some next → Legible next rest) :
    Legible shelf.document (.key "~1/" :: step :: rest) := by
  refine ⟨fun ⟨items, other⟩ => by contradiction, fun next found => ?_⟩
  obtain rfl := Option.some.inj (child?_shelf.symm.trans found)
  exact ⟨fun _ => readable, legible⟩

theorem resolve_written_iff_shelf :
    (Step.key "~1/").text ≠ "" ∧ written [.key "~1/", .index 1, .key "0"] = "#/~01~1/1/0" ∧
      shelf.resolve (.text (written [.key "~1/", .index 1, .key "0"])) = .ok (.int 5) ∧
      ∃ fault, shelf.resolve (.text (written [.key "~1/", .index 2])) = .error (.validation fault) := by
  have named : (Step.key "~1/").text ≠ "" := by decide
  have legible : Legible shelf.document [.key "~1/", .index 1, .key "0"] := by
    refine legible_shelf (isReadable_of_small (by decide)) fun next found => ?_
    obtain rfl := Option.some.inj found
    exact ⟨fun ⟨items, other⟩ => by contradiction, fun next _ => trivial⟩
  have behind : Legible shelf.document [.key "~1/", .index 2] :=
    legible_shelf (isReadable_of_small (by decide)) fun _ _ => trivial
  have found := (resolve_written_iff shelf named [.index 1, .key "0"]).1
  have missed := (resolve_written_iff shelf named [.index 2]).1
  exact ⟨named, by decide, found.mpr legible, missed.mpr behind⟩

theorem unread_shelf (unreadable : ¬step.IsReadable) :
    ¬∃ fault, shelf.resolve (.text (written [.key "~1/", step])) = .error (.validation fault) := by
  have named : (Step.key "~1/").text ≠ "" := by decide
  have illegible : ¬Legible shelf.document [.key "~1/", step] := fun legible =>
    unreadable ((legible.2 _ child?_shelf).1 ⟨_, rfl⟩)
  obtain ⟨text, failed⟩ := followKeys_of_illegible (written [.key "~1/", step]) illegible
  rw [resolve_written shelf named, failed]
  simp

/-- The superscript is a digit, and stands for no number. -/
theorem superscript_refused : isNumeral "²" = true ∧ wholeOfText? "²" = none := by
  have valueless : Text.digitValue? '²' = none := by simp [Text.digitValue?, Text.digitZeros]
  constructor
  · simp [isNumeral, Text.isDigitSign, Text.inRanges, Text.digitSignRanges]
  · simp [wholeOfText?, Text.trimChars, Text.isNumberMargin, Text.isBlank, digitsOf?, valueless]

/-- An index behind the end of a list is not reported as unresolved when it has too many digits, and a key
neither, when its only digit is one without a decimal value. -/
theorem not_reported_behind :
    nodeAt? shelf.document [.key "~1/", .index (10 ^ Text.digitLimit)] = none ∧
      (¬∃ fault, shelf.resolve (.text (written [.key "~1/", .index (10 ^ Text.digitLimit)])) =
        .error (.validation fault)) ∧
      nodeAt? shelf.document [.key "~1/", .key "²"] = none ∧
      ¬∃ fault, shelf.resolve (.text (written [.key "~1/", .key "²"])) = .error (.validation fault) := by
  obtain ⟨numeral, refused⟩ := superscript_refused
  have few : shelfItems.length ≤ 10 ^ Text.digitLimit := Nat.le_trans (by decide) ten_le_limit
  refine ⟨?_, unread_shelf (Nat.lt_irrefl _), ?_, unread_shelf fun readable => ?_⟩
  · exact (nodeAt?_shelf _).trans (child?_behind few)
  · rw [nodeAt?_shelf, child?, Step.place?, if_pos numeral, refused]
    rfl
  · exact absurd (readable numeral) (by rw [refused]; exact Bool.false_ne_true)

end Reconciler.Pointer
