import Reconciler.Coordinates
import Reconciler.Text.Host
import Reconciler.Text.Points
import Reconciler.Value.Printed

/-!
# Failures

Everything that can go wrong, by cause. The name of a failure's kind reaches conditions, metrics and
log lines, and so does its message; both are functions of the cause.
-/

namespace Reconciler

/-- What a value of the wrong shape does to an operation that needs another shape. -/
inductive ShapeFault where
  /-- A value of this kind has no such member. -/
  | noMember (kind member : String)
  /-- A value of this kind has no items. -/
  | notIterable (kind : String)
  /-- A value of this kind has no entries under names. -/
  | notIndexed (kind : String)
  /-- A value of this kind holds nothing to search. -/
  | notContainer (kind : String)
  /-- A value of this kind is no key of a map. -/
  | unhashable (kind : String)
  /-- A value of this kind stands where a text is needed. -/
  | notText (kind : String)
  /-- A path has no last step. -/
  | emptyPath
  /-- An infinity has no whole part. -/
  | infiniteWhole
  /-- An undefined number has no whole part. -/
  | undefinedWhole
  /-- A text is no whole number. -/
  | notNumeral (text : String)
  /-- A text is marked as a number and has no first digit. -/
  | noDigit
  /-- A text is marked as a truth value and is no word for one. -/
  | unknownWord (text : String)
  /-- A value of this kind cannot be read as a whole number. -/
  | notWhole (kind : String)
  /-- A number was divided by zero. -/
  | divisionByZero
  /-- The greatest of no numbers was asked for. -/
  | noGreatest
  /-- Encoded bytes are written outside the basic alphabet's character set. -/
  | notAscii
  /-- The bytes are no text. -/
  | undecodable (reason : String)
  /-- A character has no single-byte form. -/
  | unencodable (character : Char) (position : Nat)
  /-- A text with surrogates has no UTF-8 form. -/
  | lone (surrogates : Text.LoneSurrogates)
  /-- A day or time that does not exist. -/
  | impossibleTime (reason : String)
  /-- An address names no host. -/
  | malformedHost (fault : Text.HostFault)
  /-- The zero character stands in the path of a file. -/
  | zeroInPath
deriving DecidableEq, Repr

namespace ShapeFault

/-- The name of the kind of a shape fault. -/
def kind : ShapeFault → String
  | .noMember .. => "AttributeError"
  | .notIterable _ | .notIndexed _ | .notContainer _ | .unhashable _ | .notText _ | .notWhole _ =>
    "TypeError"
  | .emptyPath | .noDigit => "IndexError"
  | .unknownWord _ => "KeyError"
  | .infiniteWhole => "OverflowError"
  | .undefinedWhole | .notNumeral _ | .noGreatest | .notAscii | .impossibleTime _
  | .malformedHost _ | .zeroInPath => "ValueError"
  | .divisionByZero => "ZeroDivisionError"
  | .undecodable _ => "UnicodeDecodeError"
  | .unencodable .. | .lone _ => "UnicodeEncodeError"

/-- The message of a shape fault. -/
def message : ShapeFault → String
  | .noMember kind member =>
    Text.quoted kind ++ " object has no attribute " ++ Text.quoted member
  | .notIterable kind => Text.quoted kind ++ " object is not iterable"
  | .notIndexed kind =>
    if kind == "str" then "string indices must be integers, not 'str'"
    else if kind == "list" then "list indices must be integers or slices, not str"
    else Text.quoted kind ++ " object is not subscriptable"
  | .notContainer kind => "argument of type " ++ Text.quoted kind ++ " is not iterable"
  | .unhashable kind => "unhashable type: " ++ Text.quoted kind
  | .notText kind => "expected string or bytes-like object, got " ++ Text.quoted kind
  | .emptyPath => "tuple index out of range"
  | .infiniteWhole => "cannot convert float infinity to integer"
  | .undefinedWhole => "cannot convert float NaN to integer"
  | .notNumeral text => "invalid literal for int() with base 10: " ++ Text.quoted text
  | .noDigit => "string index out of range"
  | .unknownWord text => Text.quoted text
  | .notWhole kind =>
    "int() argument must be a string, a bytes-like object or a real number, not " ++
      Text.quoted kind
  | .divisionByZero => "float division by zero"
  | .noGreatest => "max() iterable argument is empty"
  | .notAscii => "string argument should contain only ASCII characters"
  | .undecodable reason => "'utf-8' codec can't decode bytes: " ++ reason
  | .unencodable character position =>
    "'latin-1' codec can't encode character " ++ Text.quoted (String.singleton character) ++
      " in position " ++ toString position ++ ": ordinal not in range(256)"
  | .lone surrogates =>
    "'utf-8' codec can't encode " ++ surrogates.place ++ ": surrogates not allowed"
  | .impossibleTime reason => reason
  | .malformedHost fault => fault.message
  | .zeroInPath => "embedded null byte"

end ShapeFault

/-- Why a definition or the settings do not declare what is needed. -/
inductive ConfigurationFault where
  /-- Settings that must be present are absent. -/
  | missingSettings (names : List String)
  /-- Only one of the two files of a fixed definition is named. -/
  | unpairedFiles
  /-- A text names no action. -/
  | unknownAction (text : String)
  /-- An action is declared with a method that no call is made with. -/
  | unsupportedMethod (method action : String)
  /-- A reference names no kind of credentials. -/
  | unknownCredentials (text : String)
  /-- The file of a resource descriptor cannot be read. -/
  | unreadableDescriptor (path reason : String)
  /-- The file of a resource descriptor is no document. -/
  | malformedDescriptor (path remark : String)
  /-- A field to compare is absent from the answer. -/
  | missingCompareField (field : String)
  /-- The backend is built without a source of definitions. -/
  | noDefinitions
  /-- A fault reported by its text. -/
  | reported (text : String)
deriving DecidableEq, Repr

/-- The message of a configuration fault, without the remark of a reader. -/
def ConfigurationFault.message : ConfigurationFault → String
  | .missingSettings names => "missing required environment variables: " ++ ", ".intercalate names
  | .unpairedFiles =>
    "CONTROLLER_API_DESCRIPTION and CONTROLLER_RESOURCE_DESCRIPTOR must be set together"
  | .unknownAction text => "unknown action: " ++ text
  | .unsupportedMethod method action =>
    "unsupported http method " ++ method ++ " for action " ++ action
  | .unknownCredentials text => "unknown auth type: " ++ text
  | .unreadableDescriptor path reason =>
    "unable to read resource descriptor " ++ path ++ ": " ++ reason
  | .malformedDescriptor path _ => "unable to read resource descriptor " ++ path
  | .missingCompareField field => "compare field " ++ field ++ " not found in response"
  | .noDefinitions => "the REST backend requires a definition getter"
  | .reported text => text

/-- Why a referenced object cannot be singled out. -/
inductive ReferenceFault where
  /-- Several definitions describe one kind. -/
  | ambiguous (group kind : String) (names : List String)
  /-- The field that names the object is not set. -/
  | notSet (field kind name : String)
  /-- No object of the referenced kind exists. -/
  | noInstances (kind field : String)
  /-- No object of the referenced kind has the wanted value. -/
  | noMatch (kind field wanted : String)
  /-- A fault reported by its text. -/
  | reported (text : String)
deriving DecidableEq, Repr

/-- The message of a reference fault. -/
def ReferenceFault.message : ReferenceFault → String
  | .ambiguous group kind names =>
    "ambiguous definitions for " ++ group ++ "/" ++ kind ++ ": " ++ ", ".intercalate names
  | .notSet field kind name => "spec." ++ field ++ " is not set on " ++ kind ++ " " ++ name
  | .noInstances kind field => "no " ++ kind ++ " instances found for reference spec." ++ field
  | .noMatch kind field wanted => "no " ++ kind ++ " matches spec." ++ field ++ "=" ++ wanted
  | .reported text => text

/-- Why no definition serves a resource. -/
inductive DefinitionFault where
  /-- No definition describes the kind. -/
  | absent (group kind namespace_ : String)
  /-- The only definition describes another kind. -/
  | otherKind (described kind : String)
  /-- A fault reported by its text. -/
  | reported (text : String)
deriving DecidableEq, Repr

/-- The message of a definition fault. -/
def DefinitionFault.message : DefinitionFault → String
  | .absent group kind namespace_ =>
    "no definition found for " ++ group ++ "/" ++ kind ++ " in namespace " ++ namespace_
  | .otherKind described kind => "resource descriptor describes " ++ described ++ ", not " ++ kind
  | .reported text => text

/-- Why an API description cannot be loaded. -/
inductive LoadFault where
  /-- The location answered with a failure. -/
  | unreachable (location reason : String)
  /-- The location has a form that nothing is read from. -/
  | unsupported (location : String)
  /-- The file cannot be read. -/
  | unreadable (path reason : String)
  /-- The content is no document. -/
  | malformed (location remark : String)
  /-- The document is no map. -/
  | notMapping (location : String)
  /-- The document does not declare the third version of the format. -/
  | otherFormat (location : String)
  /-- The document declares no paths. -/
  | noPaths (location : String)
  /-- A fault reported by its text. -/
  | reported (text : String)
deriving DecidableEq, Repr

/-- The message of a load fault, without the remark of a reader. -/
def LoadFault.message : LoadFault → String
  | .unreachable location reason =>
    "unable to fetch api description from " ++ location ++ ": " ++ reason
  | .unsupported location => "unsupported api description location: " ++ location
  | .unreadable path reason => "unable to read api description " ++ path ++ ": " ++ reason
  | .malformed location _ => "unable to parse api description " ++ location
  | .notMapping location => "api description " ++ location ++ " is not a mapping"
  | .otherFormat location => "api description " ++ location ++ " is not an OpenAPI 3 document"
  | .noPaths location => "api description " ++ location ++ " declares no paths"
  | .reported text => text

/-- Why an API description or a request is not valid. -/
inductive ValidationFault where
  /-- No server is declared. -/
  | noServer
  /-- A reference does not point into the document. -/
  | remoteReference (ref : Value)
  /-- A reference points nowhere. -/
  | unresolvedReference (ref : String)
  /-- A chain of references comes back to itself. -/
  | circularReference (ref : String)
  /-- A path parameter has no value. -/
  | missingPathParameter (name method path : String)
  /-- A required query parameter has no value. -/
  | missingQueryParameter (name method path : String)
  /-- A fault reported by its text. -/
  | reported (text : String)

/-- The message of a validation fault. -/
def ValidationFault.message : ValidationFault → String
  | .noServer => "no server url declared in api description"
  | .remoteReference ref => "unsupported non-local reference: " ++ ref.literal
  | .unresolvedReference ref => "unresolved reference: " ++ ref
  | .circularReference ref => "circular reference: " ++ ref
  | .missingPathParameter name method path =>
    "missing required path parameter " ++ Text.quoted name ++ " for " ++ Text.upper method ++ " " ++
      path
  | .missingQueryParameter name method path =>
    "missing required query parameter " ++ Text.quoted name ++ " for " ++ Text.upper method ++
      " " ++ path
  | .reported text => text

/-- Why a call to a backend failed. -/
inductive TransportFault where
  /-- No answer came. -/
  | unanswered (operation reason : String)
  /-- The answer has a status that the operation does not declare. -/
  | unexpectedStatus (operation : String) (status : Int) (body : String)
  /-- The body of the answer is no value. -/
  | undecodable (remark : String)
  /-- A fault reported by its text. -/
  | reported (text : String)
deriving DecidableEq, Repr

/-- The message of a transport fault, without the remark of a reader. -/
def TransportFault.message : TransportFault → String
  | .unanswered operation reason => operation ++ " failed: " ++ reason
  | .unexpectedStatus operation status body =>
    operation ++ ": unexpected status " ++ toString status ++ ": " ++ body
  | .undecodable _ => "undecodable response body"
  | .reported text => text

/-- A structured error that a backend answered. -/
structure BackendError where
  /-- The status of the answer. -/
  status : Option Int
  /-- The text of the error. -/
  text : String
  /-- The name of the error's type. -/
  typeKey : String
  /-- The number of the error. -/
  errorCode : Int
  /-- The number of the event. -/
  eventId : Int
deriving DecidableEq, Repr

/-- The message of a structured error. -/
def BackendError.message (error : BackendError) : String :=
  "error: " ++ error.text ++ " (" ++ error.typeKey ++ ", " ++ toString error.eventId ++ ")"

/-- Why no answer came over the wire. -/
inductive ExchangeFault where
  /-- No connection. -/
  | connection
  /-- No answer in time. -/
  | timeout
  /-- The answers kept pointing elsewhere. -/
  | redirects
deriving DecidableEq, Repr

/-- The name of the kind of an exchange fault. -/
def ExchangeFault.kind : ExchangeFault → String
  | .connection => "ConnectionError"
  | .timeout => "Timeout"
  | .redirects => "TooManyRedirects"

/-- What is asked of a component that was built without the means for it. -/
inductive AbsentClient where
  /-- Discovery of kinds. -/
  | discovery
  /-- Reading core resources. -/
  | coreResources
  /-- Reading secrets. -/
  | secrets
deriving DecidableEq, Repr

/-- The message about absent means. -/
def AbsentClient.message : AbsentClient → String
  | .discovery => "discovery requires a dynamic client"
  | .coreResources => "core resources require a dynamic client"
  | .secrets => "reading secrets requires a core api client"

/-- A failure, by cause. -/
inductive Failure where
  /-- A failure of the operator that is reported by its text. -/
  | operator (text : String)
  /-- Something that is needed is not declared. -/
  | configuration (fault : ConfigurationFault)
  /-- No verb serves the action. -/
  | unresolvedAction (action : String) (kind : Option String)
  /-- The description declares no such operation. -/
  | operationNotFound (method path : String)
  /-- The operation declares no status of success. -/
  | noSuccessCode (method path : String)
  /-- A referenced object cannot be singled out. -/
  | noReference (fault : ReferenceFault)
  /-- No definition serves the resource. -/
  | noDefinition (fault : DefinitionFault)
  /-- A required field of a referenced object is absent. -/
  | missingField (field owner : String)
  /-- An API description cannot be loaded. -/
  | load (fault : LoadFault)
  /-- An API description or a request is not valid. -/
  | validation (fault : ValidationFault)
  /-- A call to a backend failed on the way. -/
  | transport (fault : TransportFault) (status : Option Int)
  /-- A backend answered with a structured error. -/
  | backend (error : BackendError)
  /-- The external resource does not exist. -/
  | notFound (text : String)
  /-- The external resource differs from the desired state. -/
  | drift (fields : List String)
  /-- A chart release does not exist. -/
  | releaseNotFound (text : String)
  /-- A field of a document is absent. -/
  | fieldNotFound (path : List String)
  /-- A field of a document has another kind. -/
  | fieldType (path : List String) (expected : String) (got : Value)
  /-- An object reports that it is not ready. -/
  | notAvailable (ref : Option ObjectRef) (reason : String)
  /-- The cluster refused a call. -/
  | cluster (status : Option Int) (reason : String)
  /-- The cluster serves no such kind. -/
  | kindNotServed
  /-- No answer came over the wire. -/
  | exchange (fault : ExchangeFault) (text : String)
  /-- The stated group and version of an object are no coordinates. -/
  | version (fault : VersionFault)
  /-- A field was to be set without a path and a value. -/
  | nothingToSet
  /-- A component was built without the means for what is asked. -/
  | absentClient (client : AbsentClient)
  /-- A value has the wrong shape for an operation. -/
  | shape (fault : ShapeFault)
  /-- A text is no document. -/
  | malformedDocument (remark : String)
  /-- A value is refused, reported by its text. -/
  | invalid (text : String)
  /-- An operation is impossible, reported by its text. -/
  | impossible (text : String)
  /-- Anything else, reported by its text. -/
  | other (text : String)

namespace Failure

/-- The name of the kind of a failure. -/
def kind : Failure → String
  | .operator _ => "OperatorError"
  | .configuration _ => "ConfigurationError"
  | .unresolvedAction .. => "UnresolvedActionError"
  | .operationNotFound .. => "OperationNotFoundError"
  | .noSuccessCode .. => "NoSuccessCodeError"
  | .noReference _ => "NoReferenceFoundError"
  | .noDefinition _ => "DefinitionNotFoundError"
  | .missingField .. => "MissingFieldError"
  | .load _ => "LoadError"
  | .validation _ => "ValidationError"
  | .transport .. => "TransportError"
  | .backend _ => "APIError"
  | .notFound _ => "NotFoundError"
  | .drift _ => "DriftError"
  | .releaseNotFound _ => "ReleaseNotFoundError"
  | .fieldNotFound _ => "FieldNotFoundError"
  | .fieldType .. => "FieldTypeError"
  | .notAvailable .. => "NotAvailableError"
  | .cluster .. => "ApiException"
  | .kindNotServed => "ResourceNotFoundError"
  | .exchange fault _ => fault.kind
  | .version _ | .nothingToSet | .invalid _ => "ValueError"
  | .absentClient _ | .impossible _ => "RuntimeError"
  | .shape fault => fault.kind
  | .malformedDocument _ => "YAMLError"
  | .other _ => "Exception"

/-- The status of a refused call as text. -/
def statusText (status : Option Int) : String :=
  (status.map toString).getD "None"

/-- The message of a failure, without the remark of a reader that caused it. -/
def summary : Failure → String
  | .operator text | .notFound text | .releaseNotFound text | .exchange _ text | .invalid text
  | .impossible text | .other text => text
  | .configuration fault => fault.message
  | .unresolvedAction action kind =>
    let subject := kind.getD ""
    "impossible to build api call for action " ++ action ++
      (if subject.isEmpty then "" else " on kind " ++ subject)
  | .operationNotFound method path => "operation not found: " ++ Text.upper method ++ " " ++ path
  | .noSuccessCode method path =>
    "no valid response code found for " ++ Text.upper method ++ " " ++ path
  | .noReference fault => fault.message
  | .noDefinition fault => fault.message
  | .missingField field owner => "missing " ++ field ++ " in " ++ owner
  | .load fault => fault.message
  | .validation fault => fault.message
  | .transport fault _ => fault.message
  | .backend error => error.message
  | .drift fields =>
    let names := ", ".intercalate fields
    "external resource is not up to date: " ++ (if names.isEmpty then "unknown" else names)
  | .fieldNotFound path => ".".intercalate path ++ " not found"
  | .fieldType path expected got =>
    ".".intercalate path ++ " accessor error: " ++ got.literal ++ " is of type " ++ got.kind ++
      ", expected " ++ expected
  | .notAvailable ref reason =>
    match ref with
    | none => "err " ++ reason
    | some ref => "failedObjectRef " ++ ref.text ++ ": err " ++ reason
  | .cluster status reason => "(" ++ statusText status ++ ")\nReason: " ++ reason ++ "\n"
  | .kindNotServed => "not found"
  | .version .empty => "empty apiVersion"
  | .version (.malformed text) => "unexpected apiVersion: " ++ Text.quoted text
  | .nothingToSet => "set_field needs a path and a value"
  | .absentClient client => client.message
  | .shape fault => fault.message
  | .malformedDocument remark => remark

/-- The remark of the reader that caused a failure. -/
def remark : Failure → Option String
  | .configuration (.malformedDescriptor _ remark) => some remark
  | .load (.malformed _ remark) => some remark
  | .transport (.undecodable remark) _ => some remark
  | _ => none

/-- The message of a failure. -/
def message (failure : Failure) : String :=
  failure.summary ++ (failure.remark.map (": " ++ ·)).getD ""

/-- The external resource is absent, or not as desired. -/
def isNotFound : Failure → Bool
  | .notFound _ | .drift _ | .releaseNotFound _ => true
  | _ => false

/-- Something that is needed is not declared, which no retry mends. -/
def isConfiguration : Failure → Bool
  | .configuration _ | .unresolvedAction .. | .operationNotFound .. | .noSuccessCode ..
  | .noReference _ | .noDefinition _ | .missingField .. => true
  | _ => false

/-- A call to a backend failed. -/
def isTransport : Failure → Bool
  | .transport .. | .backend _ => true
  | _ => false

/-- The failure is one of the operator's own. -/
def isOperator : Failure → Bool
  | .operator _ | .load _ | .validation _ | .fieldNotFound _ | .fieldType .. | .notAvailable .. =>
    true
  | failure => failure.isNotFound || failure.isConfiguration || failure.isTransport

/-- The cluster refused a call. -/
def isCluster : Failure → Bool
  | .cluster .. => true
  | _ => false

/-- The cluster answered that the object does not exist. -/
def isAbsent : Failure → Bool
  | .cluster (some 404) _ => true
  | _ => false

/-- The call ended without an answer from the other side. -/
def isExchange : Failure → Bool
  | .exchange .. => true
  | _ => false

/-- A failure of reading a field: the field is absent or of another kind. -/
def isField : Failure → Bool
  | .fieldNotFound _ | .fieldType .. => true
  | _ => false

end Failure

end Reconciler
