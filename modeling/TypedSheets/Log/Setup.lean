import TypedSheets.Log

/-!
# Log setup

Log lines reach the console once it is set up, from a least severity on: everything
from debugging lines on, or only from information on. Only the lines of this program
and of its parts count.
-/

namespace TypedSheets

/-- The least severity that reaches the console, if it is set up. -/
structure LogSetup where
  least : Option Severity := none
  deriving Repr, DecidableEq

namespace LogSetup

/-- The name under which the program logs. -/
def programName : String := "masterdata"

/-- Whether a name belongs to the program or to a part of it. -/
def isOwn (name : String) : Bool :=
  name == programName || (programName ++ ".").isPrefixOf name

/-- Set up, with debugging lines or without. -/
def setUp (_ : LogSetup) (debug : Bool) : LogSetup :=
  { least := some (if debug then .debug else .info) }

/-- Set up, unless that was done before. -/
def ensure (s : LogSetup) : LogSetup := if s.least.isSome then s else s.setUp false

/-- The text that a line under a name puts on the console. -/
def shows (s : LogSetup) (name : String) (l : LogLine) : String :=
  match s.least with
  | none => ""
  | some least => if isOwn name && least.rank ≤ l.severity.rank then l.labelled ++ "\n" else ""

end LogSetup

end TypedSheets
