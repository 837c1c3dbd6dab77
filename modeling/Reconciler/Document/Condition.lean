import Reconciler.Document.Basic

/-!
# Conditions

The conditions in the status of a document: how one is written, which of them gate availability, and
the reference to the object that a document waits for.
-/

namespace Reconciler

/-- What a condition is set to. -/
structure ConditionUpdate where
  /-- The type of the condition. -/
  type : String
  /-- The status: true, false or unknown, in words. -/
  status : String
  /-- The reason in one word. -/
  reason : String
  /-- The message for a reader. -/
  message : String
  /-- The generation that was observed. -/
  observedGeneration : Option Value

namespace ConditionUpdate

/-- The condition map of an update, with the time of its last transition. -/
def toFields (update : ConditionUpdate) (transition : Value) : Fields :=
  [(.text "type", .text update.type), (.text "status", .text update.status),
    (.text "reason", .text update.reason), (.text "message", .text update.message),
    (.text "lastTransitionTime", transition)] ++
    (match update.observedGeneration with
      | none => []
      | some generation => [(.text "observedGeneration", generation)])

/-- The time of the last transition after an update: it moves only when the status changes. -/
def transition (update : ConditionUpdate) (now : String) (current : Fields) : Value :=
  if ((current.get? "status").getD .null).equal (.text update.status) then
    (current.get? "lastTransitionTime").getD (.text now)
  else .text now

/-- The conditions after an update: the first condition of the type is replaced, a new type is
appended. -/
def apply (update : ConditionUpdate) (now : String) : List Value → Except Failure (List Value)
  | [] => .ok [.map (update.toFields (.text now))]
  | .map current :: rest =>
    if ((Fields.get? current "type").getD .null).equal (.text update.type) then
      .ok (.map (update.toFields (update.transition now current)) :: rest)
    else
      match apply update now rest with
      | .ok updated => .ok (.map current :: updated)
      | .error failure => .error failure
  | v :: _ => .error (.shape (.noMember v.kind "get"))

end ConditionUpdate

/-- The state of the readiness condition. -/
structure Readiness where
  /-- The status in words. -/
  status : String
  /-- The reason in one word. -/
  reason : String
  /-- The message for a reader. -/
  message : String
deriving DecidableEq, Repr

namespace Readiness

/-- The resource is available. -/
def available : Readiness := ⟨"True", "Available", ""⟩

/-- The resource is not available. -/
def unavailable : Readiness := ⟨"False", "Unavailable", ""⟩

/-- The resource is being created. -/
def creating : Readiness := ⟨"False", "Creating", ""⟩

/-- The resource is being deleted. -/
def deleting : Readiness := ⟨"False", "Deleting", ""⟩

/-- The resource has failed. -/
def failed (reason message : String) : Readiness := ⟨"False", reason, message⟩

end Readiness

namespace Document

/-- The conditions of a document: the maps in the list of conditions. -/
def conditions (doc : Document) : Except Failure (List Value) := do
  match ← (← doc.object.memberOr "status" (.map [])).member "conditions" with
  | .list items => pure (items.filter fun item => item.fields?.isSome)
  | _ => pure []

/-- Writes a condition. -/
def setCondition (update : ConditionUpdate) (now : String) : Edit Unit := do
  let conditions ← ofExcept (← get).conditions
  let updated ← ofExcept (update.apply now conditions)
  setField ["status", "conditions"] (.list updated)

/-- Writes the readiness condition. -/
def setReady (readiness : Readiness) (now : String) : Edit Unit :=
  setCondition ⟨"Ready", readiness.status, readiness.reason, readiness.message, none⟩ now

/-- Writes the reference to the object that the document waits for. -/
def setFailedRef (ref : ObjectRef) : Edit Unit :=
  setField ["status", "failedObjectRef"] ref.toValue

/-- The reference to the object that the document waits for. -/
def failedRef (doc : Document) : Except Failure (Option ObjectRef) := do
  match ← (← doc.object.memberOr "status" (.map [])).member "failedObjectRef" with
  | .map fields => pure (some (.ofFields fields))
  | _ => pure none

/-- Removes the reference to the object that the document waits for. -/
def unsetFailedRef : Edit Unit :=
  removeField ["status", "failedObjectRef"]

/-- The words in the type of a condition that gates availability. -/
def readinessWords : List String :=
  ["ready", "complete", "healthy", "active", "able"]

/-- The type of a condition in lower case. -/
def conditionType (condition : Fields) : String :=
  Text.lower ((condition.get? "type").getD (.text "")).plain

/-- The condition gates availability. -/
def gatesAvailability (condition : Fields) : Bool :=
  readinessWords.any (Text.contains (conditionType condition))

/-- The condition has the status true. -/
def isTrue (condition : Fields) : Bool :=
  ((condition.get? "status").getD .null).equal (.text "True")

/-- The reason that an unmet condition gives: its reason, its message, or its type. -/
def unmetReason (condition : Fields) : String :=
  let part (name : String) : Value := (condition.get? name).getD .null
  (((part "reason").orElse (part "message")).orElse (.text (conditionType condition))).plain

/-- Succeeds on a document without an unmet condition that gates availability. -/
def checkAvailable (doc : Document) : Except Failure Unit := do
  let conditions ← doc.conditions
  let unmet := conditions.filterMap fun condition =>
    condition.fields?.filter fun fields => gatesAvailability fields && !isTrue fields
  match unmet with
  | [] => pure ()
  | condition :: _ => throw (.notAvailable (← doc.failedRef) (unmetReason condition))

end Document

end Reconciler
