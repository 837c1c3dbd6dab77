import Reconciler.Text.Case

/-!
# Coordinates of resources

The names by which a cluster knows its resources: the kind in a versioned group, the plural resource
name in a versioned group, and the reference that singles out one object.
-/

namespace Reconciler

/-- A stable pointer to one object of the cluster. -/
structure ObjectRef where
  /-- The group and version, as written in the object. -/
  apiVersion : String
  /-- The kind. -/
  kind : String
  /-- The name. -/
  name : String
  /-- The namespace, empty for an object of the whole cluster. -/
  namespace_ : String
deriving DecidableEq, Repr, Inhabited

/-- The written form of a reference. -/
def ObjectRef.text (ref : ObjectRef) : String :=
  ref.apiVersion ++ "." ++ ref.kind ++ " as " ++ ref.name ++ "@" ++ ref.namespace_

/-- A kind in a versioned group. -/
structure GroupVersionKind where
  /-- The group, empty for the core group. -/
  group : String
  /-- The version. -/
  version : String
  /-- The kind. -/
  kind : String
deriving DecidableEq, Repr, Inhabited

/-- A version together with its group, unless the group is the core group. -/
def joinVersion (group version : String) : String :=
  if group.isEmpty then version else group ++ "/" ++ version

/-- The group and version as an object states them. -/
def GroupVersionKind.apiVersion (gvk : GroupVersionKind) : String :=
  joinVersion gvk.group gvk.version

/-- A plural resource name in a versioned group. -/
structure GroupVersionResource where
  /-- The group, empty for the core group. -/
  group : String
  /-- The version. -/
  version : String
  /-- The plural resource name. -/
  resource : String
deriving DecidableEq, Repr, Inhabited

/-- What is wrong with the stated group and version of an object. -/
inductive VersionFault where
  /-- Nothing is stated. -/
  | empty
  /-- The text is neither a version nor a group and a version. -/
  | malformed (text : String)
deriving DecidableEq, Repr

/-- The group and version that a text states; a version alone belongs to the core group. -/
def parseApiVersion (text : String) : Except VersionFault (String × String) :=
  if text.isEmpty then .error .empty
  else
    match Text.split '/' text with
    | [version] => .ok ("", version)
    | [group, version] =>
      if group.isEmpty || version.isEmpty then .error (.malformed text) else .ok (group, version)
    | _ => .error (.malformed text)

/-- The word ends in one of the endings. -/
def endsInOneOf (endings : List String) (word : String) : Bool :=
  endings.any fun ending => ending.toList.isSuffixOf word.toList

/-- The plural of a lower-case word, as resource names form it. -/
def pluralOf (word : String) : String :=
  if word.isEmpty then word
  else if endsInOneOf ["s", "x", "z", "ch", "sh"] word then word ++ "es"
  else
    match word.toList.reverse with
    | 'y' :: before :: front =>
      if "aeiou".toList.contains before then word ++ "s"
      else String.ofList (before :: front).reverse ++ "ies"
    | _ => word ++ "s"

/-- The plural resource name of a kind. -/
def pluralize (kind : String) : String :=
  pluralOf (Text.lower kind)

/-- The resource coordinates that a kind usually has. -/
def GroupVersionKind.guessResource (gvk : GroupVersionKind) : GroupVersionResource :=
  ⟨gvk.group, gvk.version, pluralize gvk.kind⟩

end Reconciler
