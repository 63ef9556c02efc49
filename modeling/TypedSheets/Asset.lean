import TypedSheets.NamedList
import TypedSheets.Value.Text
import TypedSheets.Yaml.Scalar

/-!
# Data assets

An asset holds the records of one sheet under the name of the sheet and the name
of its record type. Its text is a block mapping of three entries; each record is a
block mapping below a dash, with its fields in order.
-/

namespace TypedSheets

open TypedSheets.Number TypedSheets.Yaml

/-- A record as names and values, in field order. -/
abbrev Entries := NamedList Value

structure Asset where
  name : String
  recordType : String
  records : List Entries
  deriving Repr

/-- The asset as the value that a reader gets back. -/
def Asset.toValue (a : Asset) : Value :=
  .map [(.text "name", .text a.name), (.text "record_type", .text a.recordType),
    (.text "list", .list (a.records.map fun entries =>
      .map (entries.map fun entry => (.text entry.1, entry.2))))]

/-- Why an asset has no text. -/
inductive AssetError where
  | oversized (cause : OversizedInteger)
  /-- A value of a kind that assets do not hold. -/
  | unrepresentable
  deriving Repr, DecidableEq

/-- What is written for a scalar value. -/
structure ScalarForm where
  text : List Char
  /-- Whether the text alone gives back the type of the value. -/
  bare : Bool := true
  /-- Names the type where the text cannot give it back. -/
  typeMark : List Char := []
  deriving Repr, DecidableEq

/-- The form of a moment: its text is read as one unless its offset has seconds. -/
def momentForm (text : String) : ScalarForm :=
  if resolve text = .timestamp then { text := text.toList }
  else { text := text.toList, bare := false, typeMark := "!!timestamp ".toList }

/-- The form of a scalar value. -/
def scalarForm : Value → Except AssetError ScalarForm
  | .null => .ok { text := "null".toList }
  | .bool truth => .ok { text := (if truth then "true" else "false").toList }
  | .int n =>
    match integerText? n with
    | .ok digits => .ok { text := digits.toList }
    | .error cause => .error (.oversized cause)
  | .float x => .ok { text := (doubleText .asset x).toList }
  | .text s => .ok { text := s.toList, bare := resolve s == .text }
  | .date d => .ok { text := d.text.toList }
  | .dateTime t => .ok (momentForm (t.textWith " "))
  | _ => .error .unrepresentable

/-- A scalar in the style that its text asks for. -/
def scalarChars (site : Site) (form : ScalarForm) : List Char :=
  let inner := { site with column := site.column + form.typeMark.length }
  form.typeMark ++
    writeStyled inner (chooseStyle form.bare (!site.folds) (analyze form.text)) form.text

/-- A key fits on one line with its value when it is short, not empty and has no line ends. -/
def isShortKey (key : List Char) : Bool :=
  !key.isEmpty && !key.any isBreak && key.length + 5 < 128

/-- The key of an entry at an indentation, up to the place of its value. -/
def keyChars (indent : Nat) (key : List Char) : List Char × Nat :=
  let bare := resolve (String.ofList key) == .text
  if isShortKey key then
    let place := { column := indent, indent := indent + 2, folds := false }
    let written := scalarChars place { text := key, bare }
    (written ++ [':', ' '], indent + written.length + 2)
  else
    let place := { column := indent + 2, indent := indent + 2, folds := true }
    let written := scalarChars place { text := key, bare }
    ('?' :: ' ' :: written ++ newLine indent ++ [':', ' '], indent + 2)

/-- One entry of a block mapping, without the line end behind it. -/
def entryChars (indent : Nat) (key : String) (value : Value) : Except AssetError (List Char) :=
  match scalarForm value with
  | .error e => .error e
  | .ok form =>
    let (written, column) := keyChars indent key.toList
    .ok (written ++ scalarChars { column, indent := indent + 2, folds := true } form)

/-- The entries of a record behind its first one, each on a line of its own. -/
def furtherEntries : Entries → Except AssetError (List Char)
  | [] => .ok []
  | (key, value) :: rest =>
    match entryChars 2 key value, furtherEntries rest with
    | .ok entry, .ok tail => .ok (newLine 2 ++ entry ++ tail)
    | .error e, _ => .error e
    | _, .error e => .error e

/-- One record behind its dash, with the line end. -/
def recordChars : Entries → Except AssetError (List Char)
  | [] => .ok "- \x7b\x7d\n".toList
  | (key, value) :: rest =>
    match entryChars 2 key value, furtherEntries rest with
    | .ok entry, .ok tail => .ok ('-' :: ' ' :: entry ++ tail ++ ['\n'])
    | .error e, _ => .error e
    | _, .error e => .error e

/-- All records, in order. -/
def recordsChars : List Entries → Except AssetError (List Char)
  | [] => .ok []
  | entries :: rest =>
    match recordChars entries, recordsChars rest with
    | .ok first, .ok tail => .ok (first ++ tail)
    | .error e, _ => .error e
    | _, .error e => .error e

/-- The text of an asset. -/
def Asset.text (a : Asset) : Except AssetError String := do
  let name ← entryChars 0 "name" (.text a.name)
  let recordType ← entryChars 0 "record_type" (.text a.recordType)
  let list ← if a.records.isEmpty then Except.ok "list: []\n".toList
    else (recordsChars a.records).map ("list:\n".toList ++ ·)
  pure (String.ofList (name ++ '\n' :: recordType ++ '\n' :: list))

end TypedSheets
