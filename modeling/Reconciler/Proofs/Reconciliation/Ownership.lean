import Mathlib.Data.List.Forall2
import Reconciler.Proofs.Reconciliation.Inspection

/-!
# Adopting owners

The owners that rules single out are gathered one after the other, and nothing is written before all of
them are found.  Those whose identity is not yet among the references are put behind them, and the document
is written once; then the same answers of the cluster give nothing to add.
-/

namespace Reconciler

/-! ## The references of a document -/

namespace Document

variable {doc : Document} {references : List Value}

theorem ownerReferences_of_follow (stated : doc.object.follow ownersPath = .ok (.list references)) :
    doc.ownerReferences = .ok references := by
  have member : doc.metadataMember "ownerReferences" = .ok (.list references) :=
    (metadataMember_eq_iff doc _ (by simp)).mpr stated
  unfold ownerReferences metadataItems
  rw [member]
  cases references <;> rfl

/-- References can be written where they can be read. -/
theorem answer_setOwnerReferences (read : doc.ownerReferences = .ok references) (all : List Value) :
    answer (setOwnerReferences all) doc = .ok () := by
  obtain ⟨items, held, -⟩ := ok_of_bind read
  obtain ⟨written, done⟩ :=
    (hasRoom_of_metadataMember held).exists_write "ownerReferences" (.list all)
  exact answer_setField (by simp) done

theorem follow_setOwnerReferences (read : doc.ownerReferences = .ok references) (all : List Value) :
    (final (setOwnerReferences all) doc).object.follow ownersPath = .ok (.list all) :=
  follow_setField (by simp) (answer_setOwnerReferences read all)

theorem edited_setOwnerReferences (doc : Document) (all : List Value) :
    Value.Edited [ownersPath] doc.object (final (setOwnerReferences all) doc).object :=
  touches_setField (by simp [ownersPath]) _ doc

end Document

namespace Ownership

/-! ## Choosing an owner -/

/-- The identity that a reference states, null when it states none. -/
def identity (reference : Value) : Value :=
  (reference.get? "uid").getD .null

/-- A rule singles out an object among others: it is the first one whose state holds the text that the
field of the rule names. -/
def SinglesOut (spec : Fields) (rule : OwnerRule) (objects : List Document) (owner : Document) : Prop :=
  ∃ wanted, spec.get? rule.field = some (.text wanted) ∧ wanted ≠ "" ∧
    ∃ before after, objects = before ++ owner :: after ∧
      (∀ other ∈ before, isMatch wanted other = .ok false) ∧ isMatch wanted owner = .ok true

theorem firstMatch_eq_some_iff {wanted : String} {objects : List Document} {owner : Document} :
    firstMatch wanted objects = .ok (some owner) ↔
      ∃ before after, objects = before ++ owner :: after ∧
        (∀ other ∈ before, isMatch wanted other = .ok false) ∧ isMatch wanted owner = .ok true := by
  constructor
  · intro found
    induction objects with
    | nil => simp [firstMatch] at found
    | cons object rest ih =>
        obtain ⟨isHeld, judged, found⟩ := ok_of_bind found
        cases isHeld with
        | true =>
            obtain rfl : object = owner := by simpa [pure, Except.pure] using found
            exact ⟨[], rest, rfl, by simp, judged⟩
        | false =>
            obtain ⟨before, after, rfl, others, own⟩ := ih found
            exact ⟨object :: before, after, rfl, List.forall_mem_cons.mpr ⟨judged, others⟩, own⟩
  · rintro ⟨before, after, rfl, others, own⟩
    induction before with
    | nil => simp [firstMatch, own, bind, Except.bind, pure, Except.pure]
    | cons object before ih =>
        have judged := others object (by simp)
        simp only [List.cons_append, firstMatch, judged, bind, Except.bind]
        exact ih fun other member => others other (by simp [member])

/-- The owner among the objects of its kind. -/
def chosen (rule : OwnerRule) (wanted : String) (objects : List Document) : Except Failure Document :=
  if objects.isEmpty then .error (.noReference (.noInstances rule.owner.kind rule.field))
  else
    match firstMatch wanted objects with
    | .ok (some owner) => .ok owner
    | .ok none => .error (.noReference (.noMatch rule.owner.kind rule.field wanted))
    | .error failure => .error failure

theorem chosen_eq_ok_iff {rule : OwnerRule} {wanted : String} {objects : List Document}
    {owner : Document} :
    chosen rule wanted objects = .ok owner ↔ firstMatch wanted objects = .ok (some owner) := by
  unfold chosen
  cases objects with
  | nil => simp [firstMatch]
  | cons object rest =>
      rw [if_neg (by simp)]
      split <;> simp_all

section Candidates

variable {ω : Type} [World ω] {doc : Document} {spec : Fields} {rule : OwnerRule}

/-- The objects among which the owner of a rule is searched. -/
def candidates (rule : OwnerRule) : Work ω (List Document) := do
  Cluster.list (← Cluster.resourceOf rule.owner) none

/-- The objects among which the owners of rules are searched, one rule after the other. -/
def allCandidates : List OwnerRule → Work ω (List (List Document))
  | [] => pure []
  | rule :: rest => do
    let objects ← candidates rule
    pure (objects :: (← allCandidates rest))

theorem ownerFor_eq {wanted : String} (names : spec.get? rule.field = some (.text wanted))
    (stated : wanted ≠ "") :
    ownerFor (ω := ω) doc spec rule = candidates rule >>= fun objects =>
      ofExcept (chosen rule wanted objects) := by
  have isSet : wanted.isEmpty = false := by simpa using stated
  simp only [ownerFor, names, isSet, candidates, bind_assoc, Bool.false_eq_true, if_false]
  refine bind_congr fun resource => bind_congr fun objects => ?_
  unfold chosen
  split
  · rfl
  · cases firstMatch wanted objects with
    | ok found => cases found <;> rfl
    | error failure => rfl

theorem names_of_ownerFor {session : Session ω} {owner : Document}
    (found : answer (ownerFor doc spec rule) session = .ok owner) :
    ∃ wanted, spec.get? rule.field = some (.text wanted) ∧ wanted ≠ "" := by
  unfold ownerFor at found
  split at found
  next wanted names =>
    split at found
    next => contradiction
    next isSet => exact ⟨wanted, names, by simpa using isSet⟩
  next => contradiction

/-- An owner is found when it is singled out among the candidates, and nothing else is asked for. -/
theorem ownerFor_ok_iff {session : Session ω} {owner : Document} :
    answer (ownerFor doc spec rule) session = .ok owner ↔
      ∃ objects, answer (candidates rule) session = .ok objects ∧
        SinglesOut spec rule objects owner := by
  constructor
  · intro found
    obtain ⟨wanted, names, stated⟩ := names_of_ownerFor found
    rw [ownerFor_eq names stated] at found
    obtain ⟨objects, listed, chose⟩ := ok_of_answer_bind found
    rw [answer_ofExcept, chosen_eq_ok_iff, firstMatch_eq_some_iff] at chose
    exact ⟨objects, listed, wanted, names, stated, chose⟩
  · rintro ⟨objects, listed, wanted, names, stated, first⟩
    rw [ownerFor_eq names stated, answer_bind_ok listed, answer_ofExcept, chosen_eq_ok_iff,
      firstMatch_eq_some_iff]
    exact first

theorem final_ownerFor {session : Session ω} {owner : Document}
    (found : answer (ownerFor doc spec rule) session = .ok owner) :
    final (ownerFor doc spec rule) session = final (candidates rule) session := by
  obtain ⟨wanted, names, stated⟩ := names_of_ownerFor found
  rw [ownerFor_eq names stated]
  exact view_final_bind id (fun _ => keeps_ofExcept _) session

theorem allCandidates_cons_ok_iff {rest : List OwnerRule} {session : Session ω}
    {objects : List Document} {others : List (List Document)} :
    answer (allCandidates (rule :: rest)) session = .ok (objects :: others) ↔
      answer (candidates rule) session = .ok objects ∧
        answer (allCandidates rest) (final (candidates rule) session) = .ok others := by
  rw [allCandidates, answer_bind]
  cases answer (candidates rule) session with
  | error failure => simp
  | ok listed =>
      dsimp only
      rw [answer_bind_pure]
      cases answer (allCandidates rest) (final (candidates rule) session) <;> simp [Except.map]

theorem length_of_allCandidates {rules : List OwnerRule} {session : Session ω}
    {objects : List (List Document)} (listed : answer (allCandidates rules) session = .ok objects) :
    objects.length = rules.length := by
  induction rules generalizing session objects with
  | nil =>
      obtain rfl : [] = objects := Except.ok.inj listed
      rfl
  | cons rule rest ih =>
      obtain ⟨own, -, listed⟩ := ok_of_answer_bind listed
      obtain ⟨others, later, same⟩ := ok_of_answer_bind listed
      obtain rfl : own :: others = objects := Except.ok.inj same
      simp [ih later]

theorem respects_list {related : ω → ω → Prop} (alike : ReadsAlike related)
    (resource : GroupVersionResource) (namespace_ : Option String) :
    Respects (Session.Related related) (Cluster.list (ω := ω) resource namespace_) :=
  respects_bind (Cluster.respects_metered _ (respects_reading alike rfl rfl)) fun _ =>
    respects_ofExcept _

/-- The candidates depend on the answers of the cluster alone. -/
theorem respects_allCandidates {related : ω → ω → Prop} (alike : ReadsAlike related)
    (rules : List OwnerRule) :
    Respects (Session.Related related) (allCandidates (ω := ω) rules) := by
  induction rules with
  | nil => exact respects_ofExcept (.ok _)
  | cons rule rest ih =>
      refine respects_bind ?_ fun objects => respects_bind ih fun others => respects_ofExcept (.ok _)
      exact respects_bind (Cluster.respects_resourceOf alike.looksUp _) fun resource =>
        respects_list alike _ _

end Candidates

/-! ## Identities among references -/

theorem member_uid {reference uid : Value} (stated : reference.member "uid" = .ok uid) :
    identity reference = uid := by
  cases reference with
  | map fields => exact Except.ok.inj stated
  | scalar s => contradiction
  | list items => contradiction

theorem holdsIdentity_cons {uid : String} {reference stated : Value}
    (read : reference.member "uid" = .ok stated) (rest : List Value) :
    holdsIdentity uid (reference :: rest) =
      if stated.equal (.text uid) = true then .ok true else holdsIdentity uid rest := by
  rw [holdsIdentity, read]
  rfl

/-- References are searched one part after the other. -/
theorem holdsIdentity_append (uid : String) (references more : List Value) :
    holdsIdentity uid (references ++ more) = holdsIdentity uid references >>= fun isHeld =>
      if isHeld = true then pure true else holdsIdentity uid more := by
  induction references with
  | nil => rfl
  | cons reference rest ih =>
      cases read : reference.member "uid" with
      | error failure => simp [holdsIdentity, read, bind, Except.bind]
      | ok stated =>
          rw [List.cons_append, holdsIdentity_cons read, holdsIdentity_cons read, ih]
          split <;> rfl

/-- References are maps, as they are written. -/
def AreMaps (references : List Value) : Prop :=
  ∀ reference ∈ references, ∃ fields, reference = .map fields

theorem AreMaps.concat {references : List Value} (maps : AreMaps references) (owner : Document) :
    AreMaps (references ++ [entryOf owner]) := by
  intro reference member
  rcases List.mem_append.mp member with old | added
  · exact maps reference old
  · exact ⟨_, List.mem_singleton.mp added⟩

/-- Maps are searched to the end. -/
theorem AreMaps.exists_holdsIdentity {references : List Value} (maps : AreMaps references)
    (uid : String) : ∃ isHeld, holdsIdentity uid references = .ok isHeld := by
  induction references with
  | nil => exact ⟨false, rfl⟩
  | cons reference rest ih =>
      obtain ⟨⟨fields, rfl⟩, others⟩ := List.forall_mem_cons.mp maps
      obtain ⟨isHeld, searched⟩ := ih others
      have read : (Value.map fields).member "uid" = .ok (identity (.map fields)) := rfl
      rw [holdsIdentity_cons read]
      split
      · exact ⟨true, rfl⟩
      · exact ⟨isHeld, searched⟩

/-- An identity that is found among references is found when more of them follow. -/
theorem holdsIdentity_append_of_holds {uid : String} {references : List Value}
    (holds : holdsIdentity uid references = .ok true) (more : List Value) :
    holdsIdentity uid (references ++ more) = .ok true := by
  rw [holdsIdentity_append, holds]
  rfl

/-- After an entry was added for an owner, its identity is found. -/
theorem holdsIdentity_concat {owner : Document} {references : List Value}
    (lacks : holdsIdentity owner.uid references = .ok false) :
    holdsIdentity owner.uid (references ++ [entryOf owner]) = .ok true := by
  have read : (entryOf owner).member "uid" = .ok (.text owner.uid) := rfl
  rw [holdsIdentity_append, lacks, holdsIdentity_cons read,
    if_pos ((Value.equal_text_iff _ _).mpr rfl)]
  rfl

/-- An identity that is not found is stated by none of the references. -/
theorem apart_of_holdsIdentity {uid : String} {references : List Value}
    (lacks : holdsIdentity uid references = .ok false) :
    ∀ reference ∈ references, identity reference ≠ .text uid := by
  induction references with
  | nil => simp
  | cons reference rest ih =>
      obtain ⟨stated, read, -⟩ := ok_of_bind lacks
      rw [holdsIdentity_cons read] at lacks
      split at lacks
      next => simp at lacks
      next other =>
        refine List.forall_mem_cons.mpr ⟨fun same => other ?_, ih lacks⟩
        rw [← member_uid read, same]
        exact (Value.equal_text_iff _ _).mpr rfl

/-- An identity that is found is stated by one of the references. -/
theorem exists_of_holdsIdentity {uid : String} {references : List Value}
    (holds : holdsIdentity uid references = .ok true) :
    ∃ reference ∈ references, identity reference = .text uid := by
  induction references with
  | nil => simp [holdsIdentity] at holds
  | cons reference rest ih =>
      obtain ⟨stated, read, -⟩ := ok_of_bind holds
      rw [holdsIdentity_cons read] at holds
      split at holds
      next same =>
        exact ⟨reference, by simp, (member_uid read).trans ((Value.equal_text_iff _ _).mp same)⟩
      next =>
        obtain ⟨other, member, same⟩ := ih holds
        exact ⟨other, by simp [member], same⟩

/-! ## Gathering the owners -/

/-- References were added for the owners that rules single out among objects, one list of them for each
rule. -/
structure Adopted (spec : Fields) (references : List Value) (rules : List OwnerRule)
    (objects : List (List Document)) (added : List Value) : Prop where
  /-- Each rule singles out an owner, and its identity is found among the references. -/
  found : List.Forall₂ (fun rule objects => ∃ owner, SinglesOut spec rule objects owner ∧
    holdsIdentity owner.uid (references ++ added) = .ok true) rules objects
  /-- What was added are entries of such owners. -/
  entries : ∀ entry ∈ added, ∃ rule objects' owner, (rule, objects') ∈ rules.zip objects ∧
    SinglesOut spec rule objects' owner ∧ entry = entryOf owner
  /-- No identity was added twice. -/
  distinct : (added.map identity).Nodup
  /-- No identity was added that was there before. -/
  new : ∀ entry ∈ added, ∀ old ∈ references, identity old ≠ identity entry

/-- Each rule has its owner among the references, by its identity. -/
theorem Adopted.identities {spec : Fields} {references added : List Value} {rules : List OwnerRule}
    {objects : List (List Document)} (adopted : Adopted spec references rules objects added) :
    List.Forall₂ (fun rule objects => ∃ owner, SinglesOut spec rule objects owner ∧
      ∃ reference ∈ references ++ added, identity reference = .text owner.uid) rules objects :=
  adopted.found.imp fun _ _ ⟨owner, own, holds⟩ => ⟨owner, own, exists_of_holdsIdentity holds⟩

section Gathering

variable {spec : Fields} {references : List Value} {rule : OwnerRule} {rules : List OwnerRule}
  {objects : List Document} {others : List (List Document)} {owner : Document} {added : List Value}

theorem adopted_nil : Adopted spec references [] [] [] :=
  ⟨.nil, by simp, by simp, by simp⟩

/-- An owner that is among the references is passed over. -/
theorem Adopted.known (adopted : Adopted spec references rules others added)
    (own : SinglesOut spec rule objects owner) (holds : holdsIdentity owner.uid references = .ok true) :
    Adopted spec references (rule :: rules) (objects :: others) added where
  found := .cons ⟨owner, own, holdsIdentity_append_of_holds holds added⟩ adopted.found
  entries entry member := by
    obtain ⟨rule, objects', owner, paired, own, same⟩ := adopted.entries entry member
    exact ⟨rule, objects', owner, by simp [paired], own, same⟩
  distinct := adopted.distinct
  new := adopted.new

/-- An owner that is not among the references is added before the others. -/
theorem Adopted.entry (adopted : Adopted spec (references ++ [entryOf owner]) rules others added)
    (own : SinglesOut spec rule objects owner) (lacks : holdsIdentity owner.uid references = .ok false) :
    Adopted spec references (rule :: rules) (objects :: others) (entryOf owner :: added) where
  found := by
    have grown : references ++ entryOf owner :: added = references ++ [entryOf owner] ++ added := by
      simp
    rw [grown]
    exact .cons ⟨owner, own, holdsIdentity_append_of_holds (holdsIdentity_concat lacks) added⟩
      adopted.found
  entries := by
    refine List.forall_mem_cons.mpr ⟨⟨rule, objects, owner, by simp, own, rfl⟩, fun entry member => ?_⟩
    obtain ⟨rule, objects', owner, paired, own, same⟩ := adopted.entries entry member
    exact ⟨rule, objects', owner, by simp [paired], own, same⟩
  distinct := by
    refine List.nodup_cons.mpr ⟨fun again => ?_, adopted.distinct⟩
    obtain ⟨entry, member, same⟩ := List.mem_map.mp again
    exact adopted.new entry member (entryOf owner) (by simp) same.symm
  new := by
    refine List.forall_mem_cons.mpr ⟨apart_of_holdsIdentity lacks, fun entry member old there => ?_⟩
    exact adopted.new entry member old (by simp [there])

variable {ω : Type} [World ω] {doc : Document}

theorem readsAlike_eq : ReadsAlike (Eq : ω → ω → Prop) := by
  rintro w - rfl α call - -
  exact ⟨rfl, rfl⟩

omit [World ω] in
theorem related_log (level : Level) (text : String) (session : Session ω) :
    Session.Related Eq (final (log level text) session) session :=
  ⟨rfl, rfl⟩

/-- Gathering the owners of rules adds them to the references. -/
theorem extended_ok {session : Session ω} {all : List Value}
    (gathered : answer (extended doc spec references rules) session = .ok all) :
    ∃ objects added, all = references ++ added ∧
      answer (allCandidates rules) session = .ok objects ∧
      Adopted spec references rules objects added := by
  -- The induction is on the rules; the references grow by the owners that were found before.
  induction rules generalizing references session with
  | nil =>
      obtain rfl : references = all := Except.ok.inj gathered
      exact ⟨[], [], by simp, rfl, adopted_nil⟩
  | cons rule rest ih =>
      obtain ⟨owner, found, gathered⟩ := ok_of_answer_bind gathered
      obtain ⟨objects, listed, own⟩ := ownerFor_ok_iff.mp found
      obtain ⟨present, judged, gathered⟩ := ok_of_answer_bind gathered
      rw [answer_ofExcept] at judged
      rw [final_ofExcept, final_ownerFor found] at gathered
      cases present with
      | true =>
          obtain ⟨others, added, rfl, later, adopted⟩ := ih gathered
          exact ⟨_, added, rfl, allCandidates_cons_ok_iff.mpr ⟨listed, later⟩, adopted.known own judged⟩
      | false =>
          rw [if_neg (by simp)] at gathered
          obtain ⟨_, -, gathered⟩ := ok_of_answer_bind gathered
          obtain ⟨others, added, rfl, later, adopted⟩ := ih gathered
          -- The log line in between does not show in what the cluster answers.
          rw [(respects_allCandidates readsAlike_eq rest _ _ (related_log _ _ _)).1] at later
          exact ⟨_, entryOf owner :: added, by simp, allCandidates_cons_ok_iff.mpr ⟨listed, later⟩,
            adopted.entry own judged⟩

/-- Owners that are singled out are gathered. -/
theorem exists_extended {session : Session ω} {objects : List (List Document)}
    (maps : AreMaps references) (listed : answer (allCandidates rules) session = .ok objects)
    (single : List.Forall₂ (fun rule objects => ∃ owner, SinglesOut spec rule objects owner)
      rules objects) :
    ∃ all, answer (extended doc spec references rules) session = .ok all := by
  induction single generalizing references session with
  | nil => exact ⟨references, rfl⟩
  | @cons rule objects rest others here single ih =>
      obtain ⟨owner, own⟩ := here
      obtain ⟨listed, later⟩ := allCandidates_cons_ok_iff.mp listed
      have singled : answer (ownerFor doc spec rule) session = .ok owner :=
        ownerFor_ok_iff.mpr ⟨objects, listed, own⟩
      obtain ⟨isHeld, searched⟩ := maps.exists_holdsIdentity owner.uid
      have judged := (answer_ofExcept (holdsIdentity owner.uid references)
        (final (ownerFor doc spec rule) session)).trans searched
      rw [extended, answer_bind_ok singled, answer_bind_ok judged, final_ofExcept,
        final_ownerFor singled]
      cases isHeld with
      | true => exact ih maps later
      | false =>
          rw [← (respects_allCandidates readsAlike_eq rest _ _ (related_log _ _ _)).1] at later
          exact ih (maps.concat owner) later

/-- Owners that are all among the references are gathered again without a change. -/
theorem extended_again {session : Session ω} {objects : List (List Document)}
    (listed : answer (allCandidates rules) session = .ok objects)
    (found : List.Forall₂ (fun rule objects => ∃ owner, SinglesOut spec rule objects owner ∧
      holdsIdentity owner.uid references = .ok true) rules objects) :
    answer (extended doc spec references rules) session = .ok references := by
  induction found generalizing session with
  | nil => rfl
  | @cons rule objects rest others here found ih =>
      obtain ⟨owner, own, holds⟩ := here
      obtain ⟨listed, later⟩ := allCandidates_cons_ok_iff.mp listed
      have singled : answer (ownerFor doc spec rule) session = .ok owner :=
        ownerFor_ok_iff.mpr ⟨objects, listed, own⟩
      have judged := (answer_ofExcept (holdsIdentity owner.uid references)
        (final (ownerFor doc spec rule) session)).trans holds
      rw [extended, answer_bind_ok singled, answer_bind_ok judged, final_ofExcept, if_pos rfl,
        final_ownerFor singled]
      exact ih later

end Gathering

/-! ## Adopting them -/

section Adopting

variable {ω : Type} [World ω]

/-- Gathers the references to owners, those of the document at hand and all of them; nothing is written
yet. -/
def gathered (rules : List OwnerRule) : Reconcile ω (List Value × List Value) := do
  let doc ← Desk.current
  let references ← ofExcept doc.ownerReferences
  let spec ← ofExcept doc.specFields
  let all ← inSession (extended doc spec references rules)
  pure (references, all)

theorem adopt_eq (rules : List OwnerRule) :
    adopt (ω := ω) rules = (do
      let found ← gathered rules
      if found.2.length == found.1.length then pure false
      else
        Desk.edit (Document.setOwnerReferences found.2)
        Handling.persist
        pure true) := by
  simp only [adopt, gathered, Handling.persist, bind_assoc, pure_bind]

theorem done_gathered {may : Permit} (rules : List OwnerRule) :
    Reconcile.Done may (gathered (ω := ω) rules) :=
  done_current fun _ => .bind (.ofExcept _) fun _ => .bind (.ofExcept _) fun _ =>
    .bind (done_inSession (made_extended _ _ _ _)) fun _ => .pure _

theorem gathered_ok_iff {rules : List OwnerRule} {desk : Desk ω} {references all : List Value} :
    answer (gathered rules) desk = .ok (references, all) ↔
      desk.document.ownerReferences = .ok references ∧ ∃ spec, desk.document.specFields = .ok spec ∧
        answer (extended desk.document spec references rules) desk.session = .ok all := by
  unfold gathered
  rw [answer_current_bind]
  constructor
  · intro found
    obtain ⟨held, read, found⟩ := ok_of_answer_bind found
    obtain ⟨spec, stated, found⟩ := ok_of_answer_bind found
    obtain ⟨more, grown, same⟩ := ok_of_answer_bind found
    simp only [answer_ofExcept, final_ofExcept, answer_inSession, answer_pure, Except.ok.injEq,
      Prod.mk.injEq] at read stated grown same
    obtain ⟨rfl, rfl⟩ := same
    exact ⟨read, spec, stated, grown⟩
  · rintro ⟨read, spec, stated, grown⟩
    rw [read, stated]
    have worked := (answer_inSession (extended desk.document spec references rules) desk).trans grown
    exact answer_bind_ok worked _

/-- What keeps the owners of rules from being gathered. -/
inductive Stalled (rules : List OwnerRule) (desk : Desk ω) : Prop
  /-- The references cannot be read. -/
  | references {failure : Failure} (unread : desk.document.ownerReferences = .error failure)
  /-- The desired state cannot be read. -/
  | spec {failure : Failure} (unread : desk.document.specFields = .error failure)
  /-- The candidates of some rule are not found. -/
  | candidates {failure : Failure} (unlisted : answer (allCandidates rules) desk.session = .error failure)
  /-- Some rule singles out no owner among its candidates. -/
  | owner {spec : Fields} {objects : List (List Document)} {rule : OwnerRule} {own : List Document}
      (stated : desk.document.specFields = .ok spec)
      (listed : answer (allCandidates rules) desk.session = .ok objects)
      (paired : (rule, own) ∈ rules.zip objects) (unowned : ∀ owner, ¬SinglesOut spec rule own owner)

/-- Gathering fails for these reasons alone, when the references that are there are maps. -/
theorem gathered_error_iff {rules : List OwnerRule} {desk : Desk ω}
    (maps : ∀ references, desk.document.ownerReferences = .ok references → AreMaps references) :
    (∃ failure, answer (gathered rules) desk = .error failure) ↔ Stalled rules desk := by
  constructor
  · rintro ⟨failure, failed⟩
    rcases read : desk.document.ownerReferences with other | references
    · exact .references read
    rcases stated : desk.document.specFields with other | spec
    · exact .spec stated
    rcases listed : answer (allCandidates rules) desk.session with other | objects
    · exact .candidates listed
    by_contra going
    have single : List.Forall₂ (fun rule own => ∃ owner, SinglesOut spec rule own owner) rules objects :=
      List.forall₂_iff_zip.mpr ⟨(length_of_allCandidates listed).symm, fun paired =>
        not_forall_not.mp fun unowned => going (.owner stated listed paired unowned)⟩
    obtain ⟨all, grown⟩ := exists_extended (maps references read) listed single
    have found := gathered_ok_iff.mpr ⟨read, spec, stated, grown⟩
    simp [failed] at found
  · intro stalled
    cases outcome : answer (gathered rules) desk with
    | error failure => exact ⟨failure, rfl⟩
    | ok found =>
        -- What was gathered excludes each of the reasons.
        obtain ⟨read, spec, stated, grown⟩ := gathered_ok_iff.mp outcome
        obtain ⟨objects, added, -, listed, adopted⟩ := extended_ok grown
        cases stalled with
        | references unread => simp [unread] at read
        | spec unread => simp [unread] at stated
        | candidates unlisted => simp [unlisted] at listed
        | owner again relisted paired unowned =>
            obtain rfl := Except.ok.inj (again.symm.trans stated)
            obtain rfl := Except.ok.inj (relisted.symm.trans listed)
            obtain ⟨owner, own, -⟩ := (List.forall₂_iff_zip.mp adopted.found).2 paired
            exact (unowned owner own).elim

/-- What adopts owners keeps the document at hand and writes nothing until all are gathered. -/
theorem kept_gathered (rules : List OwnerRule) (desk : Desk (Recorded ω)) :
    (final (gathered rules) desk).document = desk.document ∧
      (final (gathered rules) desk).session.writes = desk.session.writes := by
  have done : Reconcile.Done ⟨false, true, true, false⟩ (gathered (ω := Recorded ω) rules) :=
    done_gathered rules
  exact ⟨keeps_document done rfl desk, congrArg Trail.writes (keeps_done done desk)⟩

section Outcomes

variable {rules : List OwnerRule} {desk : Desk (Recorded ω)} {references added : List Value}

theorem adopt_of_failed {failure : Failure}
    (failed : answer (gathered rules) desk = .error failure) :
    answer (adopt rules) desk = .error failure ∧
      final (adopt rules) desk = final (gathered rules) desk := by
  rw [adopt_eq, answer_bind, final_bind, failed]
  exact ⟨rfl, rfl⟩

theorem adopt_of_nothing (found : answer (gathered rules) desk = .ok (references, references)) :
    answer (adopt rules) desk = .ok false ∧
      final (adopt rules) desk = final (gathered rules) desk := by
  rw [adopt_eq, answer_bind_ok found, final_bind_ok found, if_pos (by simp)]
  exact ⟨rfl, rfl⟩

/-- The desk when the document at hand states all references, before it is written. -/
def ready (rules : List OwnerRule) (desk : Desk (Recorded ω)) (all : List Value) :
    Desk (Recorded ω) :=
  ⟨(final (gathered rules) desk).session, final (Document.setOwnerReferences all) desk.document⟩

theorem adopt_of_added
    (found : answer (gathered rules) desk = .ok (references, references ++ added))
    (some : added ≠ []) (settable : answer (Document.setOwnerReferences (references ++ added))
      desk.document = .ok ()) :
    answer (adopt rules) desk =
        (answer Handling.persist (ready rules desk (references ++ added))).map (fun _ => true) ∧
      final (adopt rules) desk = final Handling.persist (ready rules desk (references ++ added)) := by
  have grown : ¬((references ++ added).length == references.length) = true := by
    simpa using some
  have same := (kept_gathered rules desk).1
  have edited : answer (Desk.edit (Document.setOwnerReferences (references ++ added)))
      (final (gathered rules) desk) = .ok () := by
    rw [answer_edit, same, settable]
  have left : final (Desk.edit (Document.setOwnerReferences (references ++ added)))
      (final (gathered rules) desk) = ready rules desk (references ++ added) := by
    rw [final_edit, same, ready]
  rw [adopt_eq, answer_bind_ok found, final_bind_ok found, if_neg grown, answer_bind_ok edited,
    final_bind_ok edited, left]
  exact ⟨answer_bind_pure _ (fun _ => true) _, final_bind_pure _ (fun _ => true) _⟩

/-- The document that states all references is written once, unless its resource is not found. -/
structure WrittenOnce (rules : List OwnerRule) (desk : Desk (Recorded ω)) (all : List Value) :
    Prop where
  /-- The work that remains is one update with this document, whose outcome is the answer. -/
  answers : answer (adopt rules) desk =
    (answer Handling.persist (ready rules desk all)).map fun _ => true
  /-- What this update leaves behind is left behind. -/
  leaves : final (adopt rules) desk = final Handling.persist (ready rules desk all)
  /-- It replaces the whole object, or fails before since the resource is not found. -/
  writes : (∃ failure, answer (adopt rules) desk = .error failure ∧
      answer (Cluster.resourceOfDocument (ready rules desk all).document)
        (ready rules desk all).session = .error failure ∧
      (final (adopt rules) desk).session.writes = desk.session.writes) ∨
    ∃ write : Write, write.isWhole = true ∧ write.body = (ready rules desk all).document.object ∧
      (final (adopt rules) desk).session.writes = desk.session.writes ++ [write]

theorem writtenOnce (read : desk.document.ownerReferences = .ok references)
    (found : answer (gathered rules) desk = .ok (references, references ++ added))
    (some : added ≠ []) : WrittenOnce rules desk (references ++ added) := by
  obtain ⟨answers, leaves⟩ := adopt_of_added found some (Document.answer_setOwnerReferences read _)
  have unwritten := (kept_gathered rules desk).2
  refine ⟨answers, leaves, ?_⟩
  rcases stored_cases Recorded.stores_update (ready rules desk (references ++ added)) with
    ⟨failure, failed, unplaced, kept⟩ | ⟨write, whole, body, left⟩
  · refine .inl ⟨failure, ?_, unplaced, ?_⟩
    · rw [answers]
      exact congrArg (Except.map fun _ => true) failed
    · rw [leaves]
      exact (congrArg Trail.writes kept).trans unwritten
  · refine .inr ⟨write, whole, body, ?_⟩
    rw [leaves, ← unwritten]
    exact congrArg Trail.writes left

/-- The document that was written states the references, and the same desired state. -/
theorem WrittenOnce.states {all : List Value} (read : desk.document.ownerReferences = .ok references)
    (written : WrittenOnce rules desk all) :
    (final (adopt rules) desk).document.ownerReferences = .ok all ∧
      (final (adopt rules) desk).document.specFields = desk.document.specFields := by
  have edited := Document.edited_setOwnerReferences desk.document all
  -- The update takes over a version, which is apart from the references and from the desired state.
  have updated : Trail.Run [] (ready rules desk all).trail
      (final Handling.persist (ready rules desk all)).trail := trails_persist _
  rw [written.leaves]
  constructor
  · refine Document.ownerReferences_of_follow ?_
    exact (updated.follow_eq (by decide)).trans (Document.follow_setOwnerReferences read all)
  · refine Document.topLevelFields_congr ?_
    exact (updated.follow_eq (by decide)).trans (edited.follow_eq (by decide))

/-- When the candidates are the same, what was adopted is gathered again, and there is nothing to add. -/
theorem adopt_again {spec : Fields} {objects : List (List Document)}
    (read : desk.document.ownerReferences = .ok (references ++ added))
    (stated : desk.document.specFields = .ok spec)
    (listed : answer (allCandidates rules) desk.session = .ok objects)
    (adopted : Adopted spec references rules objects added) :
    answer (adopt rules) desk = .ok false ∧
      (final (adopt rules) desk).document = desk.document ∧
      (final (adopt rules) desk).session.writes = desk.session.writes := by
  have found : answer (gathered rules) desk = .ok (references ++ added, references ++ added) :=
    gathered_ok_iff.mpr ⟨read, spec, stated, extended_again listed adopted.found⟩
  obtain ⟨answered, left⟩ := adopt_of_nothing found
  rw [left]
  exact ⟨answered, kept_gathered rules desk⟩

end Outcomes

/-- Owners are adopted all or not at all.  When they are not all gathered, for one of the reasons of
`gathered_error_iff`, nothing is edited and nothing is written.  Otherwise the references to owners grow by
the owners that were singled out and that were not among them, each one once; the document is written once
when there are some, and not at all when there are none; and while the candidates are the same, there is
nothing to adopt any more. -/
theorem adopt_all_or_none (rules : List OwnerRule) (desk : Desk (Recorded ω)) :
    let after := final (adopt rules) desk
    (∃ failure, answer (gathered rules) desk = .error failure ∧
      answer (adopt rules) desk = .error failure ∧ after.document = desk.document ∧
      after.session.writes = desk.session.writes) ∨
    ∃ references spec objects added,
      desk.document.ownerReferences = .ok references ∧ desk.document.specFields = .ok spec ∧
      answer (allCandidates rules) desk.session = .ok objects ∧
      Adopted spec references rules objects added ∧
      List.Forall₂ (fun rule objects => ∃ owner, SinglesOut spec rule objects owner ∧
        ∃ reference ∈ references ++ added, identity reference = .text owner.uid) rules objects ∧
      after.document.ownerReferences = .ok (references ++ added) ∧
      (added = [] → answer (adopt rules) desk = .ok false ∧ after.document = desk.document ∧
        after.session.writes = desk.session.writes) ∧
      (added ≠ [] → WrittenOnce rules desk (references ++ added)) ∧
      ∀ later : Desk (Recorded ω), later.document = after.document →
        answer (allCandidates rules) later.session = .ok objects →
        answer (adopt rules) later = .ok false ∧
          (final (adopt rules) later).document = later.document ∧
          (final (adopt rules) later).session.writes = later.session.writes := by
  dsimp only
  cases outcome : answer (gathered rules) desk with
  | error failure =>
      obtain ⟨failed, left⟩ := adopt_of_failed outcome
      rw [left]
      exact .inl ⟨failure, rfl, failed, kept_gathered rules desk⟩
  | ok found =>
      obtain ⟨references, all⟩ := found
      obtain ⟨read, spec, stated, grown⟩ := gathered_ok_iff.mp outcome
      obtain ⟨objects, added, rfl, listed, adopted⟩ := extended_ok grown
      refine .inr ⟨references, spec, objects, added, read, stated, listed, adopted,
        adopted.identities, ?_⟩
      by_cases none : added = []
      · subst none
        rw [List.append_nil] at outcome
        obtain ⟨answered, left⟩ := adopt_of_nothing outcome
        have kept := kept_gathered rules desk
        rw [left, kept.1, List.append_nil]
        refine ⟨read, fun _ => ⟨answered, rfl, kept.2⟩, fun some => absurd rfl some, ?_⟩
        rintro later same again
        exact adopt_again (by rw [same, read, List.append_nil]) (by rw [same, stated]) again adopted
      · have written := writtenOnce read outcome none
        obtain ⟨states, desired⟩ := written.states read
        refine ⟨states, fun empty => absurd empty none, fun _ => written, ?_⟩
        rintro later same again
        exact adopt_again (by rw [same, states]) (by rw [same, desired, stated]) again adopted

end Adopting

/-- A world in which two networks are there to be owners. -/
structure Networks where
  /-- The networks. -/
  items : List Value

instance : World Networks where
  cluster
    | .list .., world => (.ok (.ofFields [("items", .list world.items)]), world)
    | .replace _ _ _ body, world => (.ok body, world)
    | .discoverKind .., world => (.ok "networks", world)
    | _, world => (.error .kindNotServed, world)
  wire _ world := (.ok (.ofUtf8 200 [] none ""), world)
  chart _ world := (.error .kindNotServed, world)
  file _ _ := .error .absent
  wallClock _ := "1970-01-01T00:00:00Z"
  steadyClock _ := .whole 0
  freshId world := ("0", world)

namespace Networks

/-- A network with an identity, a name in its observed state, and an identity in the cluster. -/
def network (id uid : String) : Value :=
  .ofFields
    [("metadata", .ofFields [("name", .text id), ("uid", .text uid)]),
      ("status", .ofFields [("id", .text id)])]

/-- A resource that names its network twice. -/
def desk : Desk (Recorded Networks) :=
  ⟨⟨⟨⟨[network "net-1" "u1", network "net-2" "u2"]⟩, []⟩, .start .critical false, ⟨true, false⟩,
      .empty (.whole 0), none⟩,
    .ofObject (.ofFields
      [("apiVersion", .text "v1"), ("kind", .text "Host"),
        ("metadata", .ofFields [("ownerReferences", .list [.ofFields [("uid", .text "u1")]])]),
        ("spec", .ofFields [("network", .text "net-2"), ("uplink", .text "net-1"),
          ("peer", .text "net-2")])])⟩

/-- The rules for the names of networks. -/
def rules : List OwnerRule :=
  ["network", "uplink", "peer"].map fun field => ⟨field, ⟨"", "v1", "Network"⟩⟩

end Networks

/-- One of the networks is among the references already, and the other one is added once. -/
example : (answer (adopt Networks.rules) Networks.desk).toOption = some true ∧
    (final (adopt Networks.rules) Networks.desk).session.writes.length = 1 ∧
    ((final (adopt Networks.rules) Networks.desk).document.ownerReferences.toOption.map
      fun all => all.map fun reference => (identity reference).plain) = some ["u1", "u2"] := by
  decide +kernel

end Ownership

end Reconciler
