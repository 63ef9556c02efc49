import TypedSheets.EnvironmentFile
import TypedSheets.FileTree
import TypedSheets.Issue
import TypedSheets.Text.Utf8
import TypedSheets.Value.Order
import TypedSheets.Yaml.ReadError

/-!
# Failures

Everything that can stop an operation, by its cause. A failure has one wording, which
log lines and answers share.
-/

namespace TypedSheets

open TypedSheets.Number TypedSheets.Text

/-- Why records, containers and accessors refuse what they are given. -/
inductive RecordError where
  | payloadKind (kind : String)
  | entryKind (kind : String)
  /-- A key of an entry, as it is shown, that the record type does not declare. -/
  | undeclaredField (key recordType : String)
  /-- A value, as it is shown, that no member of the enumeration has. -/
  | notMember (value enumeration : String)
  /-- An integer beyond the greatest double. -/
  | beyondDouble
  | notIterable (kind : String)
  /-- A value that cannot be a key. -/
  | notKey (kind : String)
  /-- A container type without record type, asked for one by itself or by a container. -/
  | unbound (container : String) (byValue : Bool)
  | unexpectedArgument (recordType field : String)
  | noField (recordType field : String)
  /-- A default with items, which the records of a type would share. -/
  | sharedItems (kind field : String)
  | outOfRange
  | notObjectKey (kind : String)
  | notObject (kind : String)
  /-- A list or map inside itself, which the notation cannot write. -/
  | circular
  /-- A value in the place of a function. -/
  | notCallable (kind : String)
  /-- A text in the place of the name of a field's kind. -/
  | notExpression (text : String)
  deriving Repr, DecidableEq

/-- The wording of a refusal. -/
def RecordError.message : RecordError → String
  | .payloadKind kind => "asset payload must be a mapping, got " ++ kind
  | .entryKind kind => "asset entry must be a mapping, got " ++ kind
  | .undeclaredField key recordType =>
    "asset field " ++ key ++ " is not a field of " ++ recordType
  | .notMember value enumeration => value ++ " is not a valid " ++ enumeration
  | .beyondDouble => "int too large to convert to float"
  | .notIterable kind => "'" ++ kind ++ "' object is not iterable"
  | .notKey kind => "unhashable type: '" ++ kind ++ "'"
  | .unbound container false =>
    "type object '" ++ container ++ "' has no attribute 'record_type'"
  | .unbound container true => "'" ++ container ++ "' object has no attribute 'record_type'"
  | .unexpectedArgument recordType field =>
    recordType ++ ".__init__() got an unexpected keyword argument '" ++ field ++ "'"
  | .noField recordType field => "'" ++ recordType ++ "' object has no attribute '" ++ field ++ "'"
  | .sharedItems kind field =>
    "mutable default <class '" ++ kind ++ "'> for field " ++ field ++
      " is not allowed: use default_factory"
  | .outOfRange => "list index out of range"
  | .notObjectKey kind => "keys must be str, int, float, bool or None, not " ++ kind
  | .circular => "Circular reference detected"
  | .notCallable kind => "'" ++ kind ++ "' object is not callable"
  | .notExpression text => "Forward reference must be an expression -- got " ++ quote text
  | .notObject kind => "Object of type " ++ kind ++ " is not JSON serializable"

/-- The name of a refusal's kind. -/
def RecordError.kindName : RecordError → String
  | .payloadKind _ | .entryKind _ | .undeclaredField .. | .notMember .. => "ValueError"
  | .circular | .sharedItems .. => "ValueError"
  | .beyondDouble => "OverflowError"
  | .unbound .. | .noField .. => "AttributeError"
  | .outOfRange => "IndexError"
  | .notExpression _ => "SyntaxError"
  | _ => "TypeError"

inductive Failure where
  /-- An issue with the input of a run. -/
  | issue (i : Issue)
  | file (e : FileError)
  | decoding (e : Utf8Error)
  | document (e : Yaml.ReadError)
  | oversized (e : OversizedInteger)
  | environment (fault : EnvironmentFile.Fault)
  /-- A value of a kind that assets do not hold. -/
  | unrepresentable
  /-- A field type that is no primitive type. -/
  | unknownType (declared : String)
  | record (e : RecordError)
  | order (e : Value.OrderError)
  /-- An asset file whose document is no mapping. -/
  | notMapping (path : Path)
  | alreadyRegistered (accessor : String)
  | notRegistered (accessor : String)
  /-- A fetch that fails with a text. -/
  | fetch (text : String)
  /-- A path that a table of assets does not list. -/
  | unlisted (path : String)
  | cancelled
  /-- A run that cannot go on. -/
  | processing (text : String)
  /-- Settings that cannot be used. -/
  | settings (text : String)
  deriving Repr, DecidableEq

/-- The wording of a failure. -/
def Failure.message : Failure → String
  | .issue i => i.text
  | .file e => e.message
  | .decoding e => e.message
  | .document e => e.message
  | .oversized e => e.message
  | .environment fault => fault.message
  | .unrepresentable => "cannot represent an object"
  | .unknownType declared => quote declared
  | .record e => e.message
  | .order e => e.message
  | .notMapping path => "asset " ++ path.text ++ " does not hold a mapping"
  | .alreadyRegistered accessor => "accessor " ++ accessor ++ " is already registered"
  | .notRegistered accessor => quote ("accessor " ++ accessor ++ " is not registered")
  | .fetch text => text
  | .unlisted path => quote path
  | .cancelled => ""
  | .processing text => text
  | .settings text => text

/-- The name of a failure's kind; the failures of this library's own have none. -/
def Failure.kindName : Failure → String
  | .file (.system fault _) => fault.kindName
  | .decoding _ => "UnicodeDecodeError"
  | .document e => e.kindName
  | .unknownType _ | .unlisted _ | .notRegistered _ => "KeyError"
  | .record e => e.kindName
  | .order e => e.kindName
  | .fetch _ => "OSError"
  | .cancelled => "CancelledError"
  | _ => "ValueError"

/-- The failures that come from the file system or a fetch. -/
def Failure.isSystem : Failure → Bool
  | .file (.system ..) => true
  | .fetch _ => true
  | _ => false

end TypedSheets
