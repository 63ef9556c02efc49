import TypedSheets.Number.Digits

/-!
# Log lines

A log line has a severity, which is a number, and a text. Seven severities have
names; two spellings of the names are in use, one for records and one for the
labels on the console.
-/

namespace TypedSheets

open TypedSheets.Number

/-- The weight of a log line; greater is more severe. -/
structure Severity where
  rank : Int
  deriving Repr, DecidableEq

namespace Severity

def debug : Severity := ⟨10⟩
def info : Severity := ⟨20⟩
/-- The line that closes a run, between information and warnings. -/
def summary : Severity := ⟨25⟩
def warning : Severity := ⟨30⟩
def error : Severity := ⟨40⟩

/-- The name of a severity in records. -/
def name (s : Severity) : String :=
  if s.rank = 0 then "NOTSET"
  else if s.rank = 10 then "DEBUG"
  else if s.rank = 20 then "INFO"
  else if s.rank = 25 then "SUMMARY"
  else if s.rank = 30 then "WARNING"
  else if s.rank = 40 then "ERROR"
  else if s.rank = 50 then "CRITICAL"
  else "Level " ++ integerText s.rank

/-- The label of a severity on the console: as in records, with warnings shortened. -/
def label (s : Severity) : String := if s.rank = 30 then "WARN" else s.name

end Severity

structure LogLine where
  severity : Severity
  text : String
  deriving Repr, DecidableEq

/-- The line as a record shows it. -/
def LogLine.recorded (line : LogLine) : String := line.severity.name ++ " " ++ line.text

/-- The line as the console shows it. -/
def LogLine.labelled (line : LogLine) : String := line.severity.label ++ " " ++ line.text

end TypedSheets
