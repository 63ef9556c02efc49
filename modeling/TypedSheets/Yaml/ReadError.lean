import TypedSheets.Calendar
import TypedSheets.Number.DecimalText
import TypedSheets.Number.IntegerText

/-!
# Why a document does not read

Most refusals say only that the text is no document, or that a node does not fit
its tag. The others come from scalars whose tag is right and whose text is not: a
number that no integer or double denotes, a word that is no truth value, a date
that the calendar lacks, an escape beyond the last code point.
-/

namespace TypedSheets.Yaml

open TypedSheets.Calendar TypedSheets.Number

inductive ReadError where
  /-- The text breaks the grammar, or a node does not fit its tag. -/
  | malformed
  | integer (cause : IntegerTextError)
  | double (cause : DoubleTextError)
  /-- A scalar tagged as a truth value that is none of the words. -/
  | notTruth (word : String)
  /-- A scalar tagged as a number that has no digits at all. -/
  | emptyNumber
  /-- A scalar tagged as a date that does not look like one. -/
  | notTimestamp
  /-- A mapping tagged as a date. -/
  | timestampOfMapping
  /-- A number in base sixty with more parts than doubles have room for. -/
  | beyondDouble
  /-- A mapping that stands for the scalar that it stands for. -/
  | endless
  | calendar (cause : CalendarError)
  /-- An escape beyond the last code point. -/
  | codePoint (code : Nat)
  deriving Repr, DecidableEq

/-- The wording of a refusal. -/
def ReadError.message : ReadError → String
  | .malformed => "the text is not a well-formed document"
  | .integer cause => cause.message
  | .double cause => cause.message
  | .notTruth word => Text.quote word
  | .emptyNumber => "string index out of range"
  | .notTimestamp => "'NoneType' object has no attribute 'groupdict'"
  | .timestampOfMapping => "expected string or bytes-like object, got 'list'"
  | .beyondDouble => "int too large to convert to float"
  | .endless => "maximum recursion depth exceeded"
  | .calendar cause => cause.message
  | .codePoint code =>
    if code < Nat.pow 2 31 then "chr() arg not in range(0x110000)"
    else "Python int too large to convert to C int"

/-- The name of a refusal's kind. -/
def ReadError.kindName : ReadError → String
  | .malformed => "YAMLError"
  | .notTruth _ => "KeyError"
  | .emptyNumber => "IndexError"
  | .notTimestamp => "AttributeError"
  | .timestampOfMapping => "TypeError"
  | .beyondDouble => "OverflowError"
  | .endless => "RecursionError"
  | .codePoint code => if code < Nat.pow 2 31 then "ValueError" else "OverflowError"
  | _ => "ValueError"

end TypedSheets.Yaml
