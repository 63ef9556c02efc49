import TypedSheets.Run
import TypedSheets.Settings

/-!
# Command line

Three commands: `generate` writes modules, `export` writes assets, `inspect` shows what
the schema files declare. An option may be shortened as long as no other option of the
command starts with the same characters, and its value may follow an equals sign. The
exit code tells whether everything succeeded, something failed, or nothing could be
done.
-/

namespace TypedSheets.CommandLine

open TypedSheets.Number TypedSheets.Schema

inductive Command where
  | generate
  | export_
  | inspect
  deriving Repr, DecidableEq

def Command.ofName? (name : String) : Option Command :=
  if name = "generate" then some .generate
  else if name = "export" then some .export_
  else if name = "inspect" then some .inspect
  else none

/-- The options that take a value, with the setting that they override. -/
def Command.valued : Command → List (String × String)
  | .generate => [("--config", ""), ("--source", "source_directory"),
      ("--code-dest", "code_destination"), ("--asset-dest", "asset_destination"),
      ("--project-code", "project_code")]
  | .export_ => [("--config", ""), ("--source", "source_directory"),
      ("--asset-dest", "asset_destination")]
  | .inspect => [("--config", ""), ("--source", "source_directory")]

/-- The options without value. -/
def switches : List String := ["-h", "--help", "--debug"]

/-- What the arguments ask for. -/
structure Request where
  command : Command
  debug : Bool := false
  /-- The values of options, the latest first. -/
  values : List (String × String) := []

/-- Why the arguments start no run. -/
inductive Refusal where
  | help
  | usage
  deriving Repr, DecidableEq

/-- What an argument is taken for. -/
inductive ArgumentClass where
  /-- An option by its full name, with the value behind an equals sign if it has one. -/
  | option (name : String) (value : Option String)
  | unknownOption
  | ambiguous
  /-- A value or a word. -/
  | word

/-- A minus sign, digits and at most one point before the last of them. A line feed may follow. -/
def isNegativeNumber (cs : List Char) : Bool :=
  let isDigit (c : Char) : Bool := (Text.digitValue? c).isSome
  match if cs.getLast? == some '\n' then cs.dropLast else cs with
  | '-' :: rest =>
    let whole := rest.takeWhile isDigit
    match rest.drop whole.length with
    | [] => !whole.isEmpty
    | '.' :: fraction => !fraction.isEmpty && fraction.all isDigit
    | _ => false
  | _ => false

/-- The part before the first equals sign, and the part behind it if there is one. -/
def splitEquals (cs : List Char) : String × Option String :=
  let name := cs.takeWhile (· != '=')
  match cs.drop name.length with
  | _ :: value => (String.ofList name, some (String.ofList value))
  | [] => (String.ofList name, none)

/-- What an argument is, given the options that there are. -/
def classify (options : List String) (argument : String) : ArgumentClass :=
  let cs := argument.toList
  if cs.head? != some '-' then .word
  else if options.contains argument then .option argument none
  else if cs.length = 1 then .word
  else
    let (name, value) := splitEquals cs
    if value.isSome && options.contains name then .option name value
    else
      let long := "--".isPrefixOf argument
      let found := options.filter fun o =>
        if long then name.isPrefixOf o else o == String.ofList (cs.take 2)
      match found with
      | [o] => .option o (if long then value else some (String.ofList (cs.drop 2)))
      | _ :: _ :: _ => .ambiguous
      | [] => if isNegativeNumber cs || cs.contains ' ' then .word else .unknownOption

/-- What an option for help comes to, with what is joined to it. The short one may be repeated
behind itself, and nothing else may follow. -/
def helpWith (name : String) (value : Option String) : Refusal :=
  match value with
  | none => .help
  | some behind =>
    if name = "-h" && !behind.isEmpty && behind.toList.all (· == 'h') then .help else .usage

/-- Reads the arguments behind a command. An argument that fits nowhere is an error only once
all have been read, since a later one may ask for help. -/
def readOptions (options : List String) (request : Request) (stray : Bool) :
    List String → Except Refusal Request
  | [] => if stray then .error .usage else .ok request
  | argument :: rest =>
    if argument = "--" then .error .usage
    else match classify options argument with
      | .ambiguous => .error .usage
      | .unknownOption => readOptions options request true rest
      | .word => readOptions options request true rest
      | .option name value =>
        if name = "--debug" then
          if value.isSome then .error .usage
          else readOptions options { request with debug := true } stray rest
        else if switches.contains name then .error (helpWith name value)
        else match value, rest with
          | some text, rest =>
            readOptions options { request with values := (name, text) :: request.values } stray rest
          | none, [] => .error .usage
          | none, next :: others =>
            match classify options next with
            | .word =>
              readOptions options { request with values := (name, next) :: request.values } stray
                others
            | _ => .error .usage

/-- Whether an argument could stand for two options. -/
def isAmbiguous (options : List String) (argument : String) : Bool :=
  match classify options argument with
  | .ambiguous => true
  | _ => false

/-- Reads the arguments of a command. An argument that could stand for two options is an error
before any other is read, unless two minus signs stand in front of it. -/
def readCommand (command : Command) (stray : Bool) (arguments : List String) :
    Except Refusal Request :=
  let options := switches ++ command.valued.map Prod.fst
  if (arguments.takeWhile (· != "--")).any (isAmbiguous options) then .error .usage
  else readOptions options { command } stray arguments

/-- The options that may stand in front of the command. -/
def frontOptions : List String := ["-h", "--help"]

/-- Reads what stands in front of the command, and the rest with the command. -/
def readFront (stray : Bool) : List String → Except Refusal Request
  | [] => .error .usage
  | argument :: rest =>
    if argument = "--" then .error .usage
    else match classify frontOptions argument with
      | .word =>
        match Command.ofName? argument with
        | some command => readCommand command stray rest
        | none => .error .usage
      | .option name value => .error (helpWith name value)
      | _ => readFront true rest

/-- The request in the arguments. -/
def parse (arguments : List String) : Except Refusal Request := readFront false arguments

/-- The value of an option. -/
def Request.value? (r : Request) (option : String) : Option String := r.values.lookup option

/-- The settings that options override. -/
def Request.overrides (r : Request) : List (String × Value) :=
  (r.command.valued.filter fun entry => entry.2 != "").filterMap fun entry =>
    (r.value? entry.1).map fun text => (entry.2, .text text)

/-- The name of the environment variable with the path of the settings. -/
def settingsVariable : String := "MASTERDATA_CONFIG"

/-- The environment with the names of the environment file in the working directory, unless it
says that there shall be none. -/
def fullEnvironment (environment : List (String × String)) : Job (List (String × String)) := do
  if EnvironmentFile.isDisabled environment then pure environment
  else match (← get).files.read (Path.ofText ".env") with
  | .ok content =>
    match content.text with
    | .ok text => Job.ofExcept .environment (EnvironmentFile.extend environment text)
    | .error e => throw e
  | .error _ => pure environment

/-- The settings of a request. -/
def settings (r : Request) (environment : List (String × String)) : Job Settings :=
  let variable_ := environment.lookup settingsVariable
  match r.value? "--config" with
  | some text => Settings.build (some (Path.ofText text)) r.overrides true
  | none => Settings.build (some (Settings.resolvePath none variable_)) r.overrides false

/-- The lines about one accepted sheet. -/
def sheetLines (d : Description) : List String :=
  let field (f : Field) := f.name ++ ":" ++ f.declaredType ++
    (if f.enumeration.isSome then "(enum)" else "")
  ["  SHEET: " ++ d.sheet ++ " key=" ++ d.key.name ++ " rows=" ++ integerText d.rows.length,
    "    fields= " ++ ", ".intercalate (d.fields.map field)]

/-- Shows the schema files one after another; tells whether anything failed. -/
def inspectFiles : List Path → Job Bool
  | [] => pure false
  | p :: rest => do
    Job.print ("FILE: " ++ p.name ++ "\n")
    let failed ← match ← SchemaFile.read p with
      | .error text => do
        Job.print ("  read_error: " ++ text ++ "\n")
        pure true
      | .ok workbook => do
        Job.logAll (interpretationLog workbook)
        let errors := refused workbook
        let lines := (accepted workbook).flatMap sheetLines ++
          errors.map fun e => "  SHEET: " ++ e.place.sheet ++ " error=" ++ e.text
        Job.print (String.join (lines.map (· ++ "\n")))
        pure !errors.isEmpty
    let others ← inspectFiles rest
    pure (failed || others)

/-- The exit codes: everything succeeded, something failed, nothing could be done. -/
def exitSuccess : Int := 0
def exitPartial : Int := 2
def exitFatal : Int := 1

/-- Shows what the schema files of a directory declare. -/
def inspect (source : Path) : Job Int := do
  let paths ← SchemaFile.scanSource source
  if paths.isEmpty then
    Job.print "inspect: no .xlsx files\n"
    pure exitSuccess
  else
    let failed ← inspectFiles paths
    pure (if failed then exitPartial else exitSuccess)

/-- Logs the line that sums up a run; its exit code. -/
def conclude (clock : Clock) (report : Report) : Job Int := do
  let elapsed := (durationText clock.elapsed).toOption.getD ""
  Job.log .summary (report.tally.summary elapsed)
  pure (if report.tally.hasFailures then exitPartial else exitSuccess)

/-- Carries out a request with its settings. -/
def perform (clock : Clock) (r : Request) (s : Settings) : Job Int := do
  let source := Path.ofText s.source
  let logs := Path.ofText s.logs
  match r.command with
  | .inspect => inspect source
  | .generate => do conclude clock (← Run.generate clock source s.destination logs)
  | .export_ => do conclude clock (← Run.exportAll clock source (Path.ofText s.asset) logs)

/-- A run that cannot go on is reported; any other failure is passed on. -/
def guarded (job : Job Int) : Job Int := do
  match ← Job.attempt job with
  | .ok code => pure code
  | .error (.processing text) => do
    Job.log .error ("processing: " ++ text)
    pure exitFatal
  | .error e => throw e

/-- The directory that a request shows without any settings. -/
def Request.bareSource? (r : Request) : Option String :=
  match r.command, r.value? "--source" with
  | .inspect, some text => if text = "" then none else some text
  | _, _ => none

/-- Carries out a request. -/
def execute (clock : Clock) (environment : List (String × String)) (r : Request) : Job Int := do
  let environment ← fullEnvironment environment
  Job.log .debug "debug mode enabled"
  match r.bareSource? with
  | some source => guarded (inspect (Path.ofText source))
  | none =>
    match ← Job.attempt (settings r environment) with
    | .error (.settings text) => do
      Job.log .error ("config: " ++ text)
      pure exitFatal
    | .error e => throw e
    | .ok s => guarded (perform clock r s)

/-- Carries out what the arguments ask for. -/
def run (clock : Clock) (environment : List (String × String)) (arguments : List String) :
    Job Int :=
  match parse arguments with
  | .error .help => pure exitSuccess
  | .error .usage => pure exitPartial
  | .ok r => execute clock environment r

/-- The least severity that the console shows. -/
def threshold (arguments : List String) : Severity :=
  match parse arguments with
  | .ok r => if r.debug then .debug else .info
  | .error _ => .info

/-- The text on the console: printed texts, and labelled lines from a severity on. -/
def consoleText (least : Severity) (console : List Output) : String :=
  String.join (console.map fun
    | .printed text => text
    | .line l => if least.rank ≤ l.severity.rank then l.labelled ++ "\n" else "")

end TypedSheets.CommandLine
