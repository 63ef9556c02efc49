import TypedSheets.AssetFile
import TypedSheets.Emission.Layout
import TypedSheets.ErrorLog
import TypedSheets.Value.Text

/-!
# Settings

A run is set up by a mapping of five keys, three of which are required. Values from
the command line are laid over those of the file before the mapping is checked. Of
several violations, one of the mapping as a whole counts before those of its values,
and of these the one under the greatest key.
-/

namespace TypedSheets

open TypedSheets.Number TypedSheets.Text TypedSheets.Emission

structure Settings where
  source : String
  code : String
  asset : String
  project : Option String := none
  logs : String
  deriving Repr, DecidableEq

/-- The destinations of the generated files. -/
def Settings.destination (s : Settings) : Destination :=
  { code := Path.ofText s.code, asset := Path.ofText s.asset, project := s.project }

namespace Settings

/-- The keys, from the least to the greatest. -/
def keys : List String :=
  ["asset_destination", "code_destination", "log_dir", "project_code", "source_directory"]

/-- The keys that must be there, in the order in which a missing one is reported. -/
def requiredKeys : List String := ["source_directory", "code_destination", "asset_destination"]

/-- What a value under a key must be. -/
inductive Demand where
  /-- A text that is not empty. -/
  | filledText
  /-- A package name, or null. -/
  | packageName

def demandOf (key : String) : Demand := if key = "project_code" then .packageName else .filledText

/-- The pattern of package names, as messages show it. -/
def packagePattern : String := "^[A-Za-z_][A-Za-z0-9_]*$"

/-- A letter of the English alphabet or an underscore. -/
def isPackageStart (c : Char) : Bool := c.isAlpha || c == '_'

/-- Such a letter followed by letters, digits and underscores; one line feed may end it. -/
def isPackageName (text : String) : Bool :=
  let cs := text.toList
  let bare := if cs.getLast? == some '\n' then cs.dropLast else cs
  match bare with
  | [] => false
  | c :: rest => isPackageStart c && rest.all fun x => x.isAlphanum || x == '_'

/-- What a value violates; an integer without text has no wording for it. -/
def violation? (demand : Demand) (value : Value) : Except OversizedInteger (Option String) :=
  match demand, value with
  | .filledText, .text s => .ok (if s.isEmpty then some "'' should be non-empty" else none)
  | .filledText, value => value.shown.map fun shown => some (shown ++ " is not of type 'string'")
  | .packageName, .null => .ok none
  | .packageName, .text s =>
    .ok (if isPackageName s then none
      else some (quote s ++ " does not match " ++ quote packagePattern))
  | .packageName, value =>
    value.shown.map fun shown => some (shown ++ " is not of type 'string', 'null'")

/-- Whether a key belongs to the settings. -/
def isKnown : Value → Bool
  | .text key => keys.contains key
  | _ => false

/-- The message about keys that do not belong to the settings, sorted by their texts. -/
def unknownKeys (unknown : List Value) : Except OversizedInteger String := do
  let labelled ← unknown.mapM fun key => do pure ((← key.plainText), (← key.shown))
  let sorted := labelled.mergeSort fun a b => a.1 ≤ b.1
  let verb := if unknown.length = 1 then "was" else "were"
  pure ("Additional properties are not allowed (" ++ ", ".intercalate (sorted.map Prod.snd) ++
    " " ++ verb ++ " unexpected)")

/-- The first violation among the values under keys. -/
def firstViolation? (data : List (Value × Value)) :
    List String → Except OversizedInteger (Option String)
  | [] => .ok none
  | key :: rest =>
    match Value.lookup? (.text key) data with
    | none => firstViolation? data rest
    | some value =>
      match violation? (demandOf key) value with
      | .error e => .error e
      | .ok (some message) => .ok (some message)
      | .ok none => firstViolation? data rest

/-- The violation that is reported, if there is any. -/
def check (data : List (Value × Value)) : Except OversizedInteger (Option String) :=
  let unknown := (data.map Prod.fst).filter fun key => !isKnown key
  if !unknown.isEmpty then (unknownKeys unknown).map some
  else match requiredKeys.find? fun key => (Value.lookup? (.text key) data).isNone with
    | some key => .ok (some (quote key ++ " is a required property"))
    | none => firstViolation? data keys.reverse

/-- The text under a key. -/
def textUnder? (data : List (Value × Value)) (key : String) : Option String :=
  match Value.lookup? (.text key) data with
  | some (.text s) => some s
  | _ => none

/-- The settings in a mapping; an empty package name counts as none. -/
def ofData (data : List (Value × Value)) : Except Failure Settings :=
  match check data with
  | .error e => .error (.oversized e)
  | .ok (some message) => .error (.settings ("config validation failed: " ++ message))
  | .ok none =>
    let project := match textUnder? data "project_code" with
      | some "" => none
      | other => other
    .ok { source := (textUnder? data "source_directory").getD ""
          code := (textUnder? data "code_destination").getD ""
          asset := (textUnder? data "asset_destination").getD ""
          project
          logs := (textUnder? data "log_dir").getD "./logs" }

/-- The mapping in a settings file; a document that counts as false is an empty mapping. -/
def readData (p : Path) : Job (List (Value × Value)) := do
  match (← Job.attempt (readDocument p)).map Value.opened with
  | .error (.document .malformed) =>
    throw (.settings ("invalid yaml: " ++ Yaml.ReadError.malformed.message))
  | .error e => throw e
  | .ok (.map entries) => pure entries
  | .ok value =>
    if value.isTruthy then throw (.settings ("config root must be a mapping: " ++ p.text))
    else pure []

/-- The settings in a file, which must exist. -/
def load (p : Path) : Job Settings := do
  if ← Job.ask (·.exists? p) then
    Job.ofExcept id (ofData (← readData p))
  else throw (.settings ("config file not found: " ++ p.text))

/-- Lays values over a mapping; null leaves the mapping as it is. -/
def override (data : List (Value × Value)) (values : List (String × Value)) :
    List (Value × Value) :=
  values.foldl (fun data entry =>
    match entry.2 with
    | .null => data
    | value => Value.putEntry (.text entry.1) value data) data

/-- The settings in a file with values laid over them. A file that is missing counts as an
empty mapping, unless it is required. -/
def build (p : Option Path) (values : List (String × Value)) (required : Bool) :
    Job Settings := do
  let found ← match p with
    | none => pure none
    | some path => do pure (if ← Job.ask (·.exists? path) then some path else none)
  let data ← match found with
    | some path => readData path
    | none =>
      if required then
        throw (.settings ("config file not found: " ++ (p.map Path.text).getD "None"))
      else pure []
  Job.ofExcept id (ofData (override data values))

/-- Where the settings are read from when nothing says so. -/
def defaultPath : Path := Path.ofText "config/masterdata.yml"

/-- The path of the settings file: given, else from the environment, else the default. -/
def resolvePath (given environment : Option String) : Path :=
  match given, environment with
  | some text, other =>
    if text ≠ "" then Path.ofText text
    else match other with
      | some text => if text ≠ "" then Path.ofText text else defaultPath
      | none => defaultPath
  | none, some text => if text ≠ "" then Path.ofText text else defaultPath
  | none, none => defaultPath

end Settings

end TypedSheets
