import TypedSheets.Number.DecimalText
import TypedSheets.Path

/-!
# Progress

On a terminal, a bar counts the schema files of a run and shows how many succeeded and
failed; a line for each sheet says what it produced. Elsewhere only the counters move.
-/

namespace TypedSheets

open TypedSheets.Number

/-- What the bar shows. -/
structure ProgressBar where
  label : String
  done : Nat := 0
  total : Int
  /-- The counters behind the bar, once a file has finished. -/
  counters : Option String := none
  deriving Repr, DecidableEq

structure FileProgress where
  description : String := "Processing schema files"
  current : Nat := 0
  succeeded : Nat := 0
  failed : Nat := 0
  /-- Whether the run has a terminal. -/
  enabled : Bool
  bar : Option ProgressBar
  deriving Repr, DecidableEq

/-- Why the end of a file cannot be shown. -/
inductive ProgressError where
  /-- Something that the call takes by itself is named once more. -/
  | argumentTwice (name : String)
  /-- A counter has the name of one that the bar has by itself. -/
  | counterTwice (name : String)
  /-- A single counter stands where a list of counters belongs. -/
  | notCounters
  /-- A counter beyond the greatest double. -/
  | beyondDouble
  deriving Repr, DecidableEq

/-- The wording of a refusal. -/
def ProgressError.message : ProgressError → String
  | .argumentTwice name =>
    "ProgressTracker.finish_file() got multiple values for argument '" ++ name ++ "'"
  | .counterTwice name =>
    "tqdm.std.tqdm.set_postfix() got multiple values for keyword argument '" ++ name ++ "'"
  | .notCounters => "'int' object is not iterable"
  | .beyondDouble => "int too large to convert to float"

/-- The name of a refusal's kind. -/
def ProgressError.kindName : ProgressError → String
  | .beyondDouble => "OverflowError"
  | _ => "TypeError"

/-- An integer of at least four digits in three significant ones with an exponent. -/
def roundedText (negative : Bool) (size : Nat) : String :=
  let places := (naturalChars size).length - 3
  let rounded := roundDiv size (Nat.pow 10 places)
  let (significand, exponent) := if rounded = 1000 then (100, places + 3) else (rounded, places + 2)
  let fraction := Text.dropTrailing '0' ((naturalChars significand).drop 1)
  (if negative then "-" else "") ++ String.ofList ((naturalChars significand).take 1) ++
    (if fraction.isEmpty then "" else "." ++ String.ofList fraction) ++ "e+" ++
    integerText exponent

/-- A counter: all its digits, or three of those of the nearest double where that is shorter. -/
def counterText (n : Int) : Except ProgressError String :=
  match (Double.ofInt? n).bind Double.truncate? with
  | none => .error .beyondDouble
  | some near =>
    let full := integerText n
    if near.natAbs < 1000 then .ok full
    else
      let rounded := roundedText (n < 0) near.natAbs
      .ok (if rounded.length < full.length then rounded else full)

/-- A counter with its name. -/
def counterPart (counter : String × Int) : Except ProgressError String :=
  (counterText counter.2).map fun text => counter.1 ++ "=" ++ text

/-- The counters by name. -/
def countersText (counters : List (String × Int)) : Except ProgressError String :=
  let sorted := counters.mergeSort fun a b => a.1 ≤ b.1
  (sorted.mapM counterPart).map (", ".intercalate ·)

/-- The label in front of the bar. -/
def barLabel (text : String) : String := if text = "" then "" else text ++ ": "

namespace FileProgress

/-- The progress before the first file. -/
def new (terminal : Bool) (total : Int) (description : String) : FileProgress :=
  { description, enabled := terminal,
    bar := if terminal then some { label := description, total } else none }

/-- A file is started. -/
def start (p : FileProgress) (file : Path) : FileProgress :=
  { p with current := p.current + 1
           bar := p.bar.map fun b =>
             { b with label := barLabel (p.description ++ " (" ++ file.name ++ ")") } }

/-- The text behind the bar: its own counters and further ones. Two names are no counters:
`refresh` makes no difference, and `ordered_dict` stands for a list of them. -/
def counters (own further : List (String × Int)) : Except ProgressError String :=
  match further.find? fun counter => (own.lookup counter.1).isSome with
  | some counter => .error (.counterTwice counter.1)
  | none =>
    if (further.lookup "ordered_dict").isSome then .error .notCounters
    else countersText (own ++ further.filter (·.1 != "refresh"))

/-- A file is finished; further counters may be shown. Whether it succeeded is given by itself
or as the one that is named `success`. -/
def finish (p : FileProgress) (given : Option Bool) (named : List (String × Int)) :
    Except ProgressError FileProgress := do
  if (named.lookup "self").isSome then throw (.argumentTwice "self")
  let success ← match given, named.lookup "success" with
    | some _, some _ => throw (.argumentTwice "success")
    | some success, none => pure success
    | none, some n => pure (n != 0)
    | none, none => pure true
  let succeeded := if success then p.succeeded + 1 else p.succeeded
  let failed := if success then p.failed else p.failed + 1
  let bar ← p.bar.mapM fun b => do
    let text ← counters [("ok", succeeded), ("failed", failed)]
      (named.filter (·.1 != "success"))
    pure { b with label := barLabel p.description, done := b.done + 1, counters := some text }
  pure { p with succeeded, failed, bar }

/-- The bar is taken away. -/
def close (p : FileProgress) : FileProgress := { p with bar := none }

end FileProgress

structure SheetProgress where
  total : Int
  /-- What the sheets produce. -/
  unit : String := "records"
  enabled : Bool
  current : Nat := 0
  deriving Repr, DecidableEq

namespace SheetProgress

/-- A sheet is started; gives the text that is printed. -/
def start (p : SheetProgress) (sheet : String) : SheetProgress × String :=
  let current := p.current + 1
  ({ p with current },
    if p.enabled then
      "  Sheet " ++ integerText current ++ "/" ++ integerText p.total ++ ": " ++ sheet
    else "")

/-- A sheet is finished; the text that is printed. -/
def finish (p : SheetProgress) (success : Bool) (count : Int) : String :=
  if !p.enabled then ""
  else
    let mark := if success then "✓" else "✗"
    if success && 0 < count then " - " ++ integerText count ++ " " ++ p.unit ++ " " ++ mark ++ "\n"
    else " " ++ mark ++ "\n"

end SheetProgress

end TypedSheets
