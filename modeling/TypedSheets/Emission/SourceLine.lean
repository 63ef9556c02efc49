/-!
# Lines of generated modules

A generated module is a list of lines. Imports and class headers are kept in their
parts, because what a module binds and where its names come from is read off them;
every other line is an indentation and a text.
-/

namespace TypedSheets.Emission

/-- A name that an import takes, and the name it gets when that differs. -/
structure ImportedName where
  name : String
  renamed : Option String := none
  deriving Repr, DecidableEq

/-- The name that the import binds. -/
def ImportedName.bound (i : ImportedName) : String := i.renamed.getD i.name

def ImportedName.text (i : ImportedName) : String :=
  match i.renamed with
  | none => i.name
  | some other => i.name ++ " as " ++ other

inductive SourceLine where
  | blank
  | importFrom (source : String) (names : List ImportedName)
  /-- A top-level class with its bases, if it names any. -/
  | classHeader (name : String) (bases : Option String)
  /-- Any other line; one step of indentation is four spaces. -/
  | code (steps : Nat) (text : String)
  deriving Repr, DecidableEq

def SourceLine.text : SourceLine → String
  | .blank => ""
  | .importFrom source names =>
    "from " ++ source ++ " import " ++ ", ".intercalate (names.map ImportedName.text)
  | .classHeader name none => "class " ++ name ++ ":"
  | .classHeader name (some bases) => "class " ++ name ++ "(" ++ bases ++ "):"
  | .code steps text => String.ofList (List.replicate (4 * steps) ' ') ++ text

/-- The text of a module: each line ends with a line feed. -/
def sourceText (lines : List SourceLine) : String :=
  String.join (lines.map fun line => line.text ++ "\n")

/-- An import of one name. -/
def importOne (source name : String) : SourceLine := .importFrom source [{ name }]

/-- The first line of every generated module. -/
def banner : SourceLine := .code 0 "# DON'T EDIT. THIS IS GENERATED AUTOMATICALLY."

end TypedSheets.Emission
