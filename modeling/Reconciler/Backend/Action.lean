import Reconciler.Failure

/-!
# Actions and the kinds of calls

What is done to an external resource, and how the call that does it is made. An action is declared
with a method; searching and listing are made with any method, the other actions with those that a
call can be made with.
-/

namespace Reconciler

/-- What is done to an external resource. -/
inductive Action where
  /-- It is created. -/
  | create
  /-- It is updated. -/
  | update
  /-- It is deleted. -/
  | delete
  /-- It is read by its identifiers. -/
  | get
  /-- All resources are listed. -/
  | list
  /-- It is looked for in the list of all resources. -/
  | findBy
deriving DecidableEq, Repr, Inhabited

namespace Action

/-- The name of an action. -/
def text : Action → String
  | .create => "create"
  | .update => "update"
  | .delete => "delete"
  | .get => "get"
  | .list => "list"
  | .findBy => "findby"

/-- All actions. -/
def all : List Action :=
  [.create, .update, .delete, .get, .list, .findBy]

/-- The form in which names of actions are compared: without white space around it, in lower case. -/
def normalized (s : String) : String :=
  Text.lower (Text.trim s)

/-- The action that a text names. -/
def ofText (s : String) : Except Failure Action :=
  match all.find? fun action => action.text == normalized s with
  | some action => .ok action
  | none => .error (.configuration (.unknownAction s))

end Action

/-- How a call is made. -/
inductive CallKind where
  /-- Something is read. -/
  | get
  /-- Something is posted. -/
  | post
  /-- Something is put in place. -/
  | put
  /-- Something is patched. -/
  | patch
  /-- Something is deleted. -/
  | delete
  /-- A list is read. -/
  | list
  /-- A list is read and searched. -/
  | findBy
deriving DecidableEq, Repr, Inhabited

namespace CallKind

/-- The name of a kind of call. -/
def text : CallKind → String
  | .get => "GET"
  | .post => "POST"
  | .put => "PUT"
  | .patch => "PATCH"
  | .delete => "DELETE"
  | .list => "LIST"
  | .findBy => "FIND_BY"

/-- The kinds of calls that are made with the method of their name. -/
def single : List CallKind :=
  [.get, .post, .put, .patch, .delete]

/-- The kind of call with a name. -/
def ofText? (s : String) : Option CallKind :=
  (single ++ [CallKind.list, CallKind.findBy]).find? fun kind => kind.text == s

/-- The kind of call for an action that is declared with a method. -/
def ofAction (action : Action) (method : String) : Except Failure CallKind :=
  match action with
  | .findBy => .ok .findBy
  | .list => .ok .list
  | _ =>
    match single.find? fun kind => kind.text == Text.upper method with
    | some kind => .ok kind
    | none => .error (.configuration (.unsupportedMethod (Text.upper method) action.text))

end CallKind

/-- Requests with the method carry a body. -/
def carriesBody (method : String) : Bool :=
  ["POST", "PUT", "PATCH"].contains method

end Reconciler
