import TypedSheets.Workspace
import TypedSheets.Yaml.NodeValue

/-!
# Asset files

An asset file is read as one document, which must be a mapping. Its line ends are
unified before the document is read. A relative path stands below a base directory,
when there is one.
-/

namespace TypedSheets

open TypedSheets.Text

/-- The text that a file content encodes, with unified line ends. A workbook is a compressed archive,
which stops being text right behind its signature. -/
def FileContent.text : FileContent → Except Failure String
  | .workbook _ => .error (.decoding { fault := .start, byte := 0x80, offset := 4, length := 1 })
  | .bytes data => ((decodeUtf8 data).mapError Failure.decoding).map unifyLines

/-- The document in a file. -/
def readDocument (p : Path) : Job Value := do
  let content ← Job.ask (·.read p)
  let text ← Job.ofExcept id content.text
  Job.ofExcept .document (Yaml.readValue text)

/-- The path of an asset below a base directory. -/
def assetFilePath (base : Option Path) (path : String) : Path :=
  match base with
  | some directory => directory.child path
  | none => Path.ofText path

/-- The mapping in an asset file. -/
def readAsset (base : Option Path) (path : String) : Job Value := do
  let p := assetFilePath base path
  let value ← readDocument p
  match value.opened with
  | .map _ => pure value
  | _ => throw (.notMapping p)

end TypedSheets
