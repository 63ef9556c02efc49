import TypedSheets.Number.Digits

/-!
# Issues

An issue is what a run reports about its input: a kind, a message, and the place
that caused it. Rows and columns are counted from zero; a negative one means that
the issue has no row or column, and an empty file or sheet name that it has none.
-/

namespace TypedSheets

open TypedSheets.Number

/-- What an issue is about. -/
inductive IssueKind where
  /-- No more specific kind applies. -/
  | general
  /-- A schema file could not be decoded; it stops that file only. -/
  | unreadableFile
  /-- A sheet or a name breaks the conventions; it stops that sheet. -/
  | shape
  /-- A data cell does not fit its declared type; it stops the export of the sheet. -/
  | coercion
  deriving Repr, DecidableEq

/-- The code of a kind in the error log. -/
def IssueKind.code : IssueKind → String
  | .general => "MASTERDATA_ERROR"
  | .unreadableFile => "SCHEMA_FILE_READ_ERROR"
  | .shape => "SCHEMA_SHAPE_ERROR"
  | .coercion => "DATA_COERCION_ERROR"

/-- Where an issue arose. -/
structure Place where
  file : String := ""
  sheet : String := ""
  row : Int := -1
  column : Int := -1
  deriving Repr, DecidableEq

structure Issue where
  kind : IssueKind
  message : String
  place : Place
  deriving Repr, DecidableEq

/-- The parts of a place that are known, in the order file, sheet, row, column. -/
def Place.parts (p : Place) : List String :=
  (if p.file = "" then [] else ["file=" ++ p.file]) ++
  (if p.sheet = "" then [] else ["sheet=" ++ p.sheet]) ++
  (if p.row < 0 then [] else ["row=" ++ integerText p.row]) ++
  (if p.column < 0 then [] else ["column=" ++ integerText p.column])

/-- The message, followed by the known parts of the place in parentheses. -/
def Issue.text (issue : Issue) : String :=
  match issue.place.parts with
  | [] => issue.message
  | parts => issue.message ++ " (" ++ " ".intercalate parts ++ ")"

end TypedSheets
