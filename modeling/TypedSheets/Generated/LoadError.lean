import TypedSheets.Failure

/-!
# Why generated modules do not load

Generated modules are well formed by their layout, but the names in them come from the
sheets, and the language gives some names a meaning that a sheet cannot know of. Each
cause has one wording and one kind.
-/

namespace TypedSheets.Generated

open TypedSheets.Number TypedSheets.Text

inductive LoadError where
  | noModule (name : String)
  /-- A module inside a module that is no package. -/
  | noPackage (name parent : String)
  /-- A module name that starts with a dot. -/
  | relativeName (name : String)
  /-- A line that cannot be read. -/
  | malformed (cause file : String) (line : Nat)
  /-- A member with the name of an earlier one, which has a value. -/
  | repeatedMember (name : String) (value : Int)
  /-- A member with a name that enumerations keep for themselves. -/
  | reservedMember (name : String)
  /-- An enumeration whose base has members. -/
  | closedBase (name base : String)
  | undefinedName (name : String)
  | noMember (name : String)
  /-- A value of some kind that has no attribute of a name. -/
  | noAttribute (kind name : String)
  /-- A value of some kind in the place of a map. -/
  | noItems (kind : String)
  | slotNames
  | qualifiedName (kind : String)
  /-- A value of some kind, as the kind is shown, in the place of a cell for the class. -/
  | classCell (shownKind : String)
  /-- A class whose module is not known. -/
  | noNamespace
  /-- A value, as it is shown, in the place of a signature. -/
  | notSignature (shown : String)
  /-- A value, as it is shown, in the place of a function. -/
  | notFunction (shown : String)
  /-- An entry, as it is shown, that a map does not have. -/
  | noEntry (shown : String)
  | failure (cause : Failure)
  deriving Repr, DecidableEq

/-- The wording of a cause. -/
def LoadError.message : LoadError → String
  | .noModule name => "No module named " ++ quote name
  | .noPackage name parent =>
    "No module named " ++ quote name ++ "; " ++ quote parent ++ " is not a package"
  | .relativeName name =>
    "the 'package' argument is required to perform a relative import for " ++ quote name
  | .malformed cause file line =>
    cause ++ " (" ++ file ++ ", line " ++ integerText line ++ ")"
  | .repeatedMember name value => quote name ++ " already defined as " ++ integerText value
  | .reservedMember name => "invalid enum member name(s) " ++ quote name
  | .closedBase name base => "<enum '" ++ name ++ "'> cannot extend <enum '" ++ base ++ "'>"
  | .undefinedName name => "name '" ++ name ++ "' is not defined"
  | .noMember name => name
  | .noAttribute kind name => "'" ++ kind ++ "' object has no attribute '" ++ name ++ "'"
  | .noItems kind => "'" ++ kind ++ "' object does not support item assignment"
  | .slotNames => "__slots__ must be identifiers"
  | .qualifiedName kind => "type __qualname__ must be a str, not " ++ kind
  | .classCell shownKind => "__classcell__ must be a nonlocal cell, not " ++ shownKind
  | .noNamespace => "'NoneType' object has no attribute '__dict__'"
  | .notSignature shown => "unexpected object " ++ shown ++ " in __signature__ attribute"
  | .notFunction shown => shown ++ " is not a callable object"
  | .noEntry shown => shown
  | .failure cause => cause.message

/-- The name of a cause's kind. -/
def LoadError.kindName : LoadError → String
  | .noModule _ | .noPackage .. => "ModuleNotFoundError"
  | .malformed .. => "SyntaxError"
  | .reservedMember _ => "ValueError"
  | .undefinedName _ => "NameError"
  | .noMember _ | .noAttribute .. | .noNamespace => "AttributeError"
  | .noEntry _ => "KeyError"
  | .failure cause => cause.kindName
  | _ => "TypeError"

end TypedSheets.Generated
