import TypedSheets.NamedList
import TypedSheets.Text.Blank
import TypedSheets.Text.Lines

/-!
# Environment files

An environment file assigns texts to names, a line for each. A value stands bare, up to a
comment behind a blank, or between quotes, where it may span lines. A name in braces
behind a dollar sign stands for its value, with an optional default behind a colon and
a dash. A line that makes no sense is passed over.
-/

namespace TypedSheets.EnvironmentFile

open TypedSheets.Text

/-- A blank within a line. -/
def isInnerBlank (c : Char) : Bool := isBlank c && c != '\n' && c != '\r'

/-- The rest of a line and what follows it. -/
def dropLine (cs : List Char) : List Char :=
  match cs.dropWhile fun c => c != '\n' && c != '\r' with
  | _ :: rest => rest
  | [] => []

/-- Behind the end of a line, which only blanks and a comment may precede. -/
def lineEnd? (cs : List Char) : Option (List Char) :=
  let behind := match cs.dropWhile isInnerBlank with
    | '#' :: rest => rest.dropWhile fun c => c != '\n' && c != '\r'
    | rest => rest
  match behind with
  | [] => some []
  | '\r' :: '\n' :: rest => some rest
  | '\r' :: rest => some rest
  | '\n' :: rest => some rest
  | _ => none

/-- Without the word that announces an exported name. -/
def dropExport (cs : List Char) : List Char :=
  let word := "export".toList
  if word.isPrefixOf cs then
    match cs.drop word.length with
    | c :: rest => if isInnerBlank c then rest.dropWhile isInnerBlank else cs
    | [] => cs
  else cs

/-- A name, between single quotes or bare; a comment has none. -/
def name? : List Char → Option (Option String × List Char)
  | '#' :: rest => some (none, '#' :: rest)
  | '\'' :: rest =>
    let name := rest.takeWhile (· != '\'')
    match rest.dropWhile (· != '\'') with
    | '\'' :: behind => if name.isEmpty then none else some (some (String.ofList name), behind)
    | _ => none
  | cs =>
    let isPart (c : Char) : Bool := !(c == '=' || c == '#' || isBlank c)
    let name := cs.takeWhile isPart
    if name.isEmpty then none else some (some (String.ofList name), cs.dropWhile isPart)

/-- The characters up to the closing quote. A backslash before a quote keeps it inside, unless
no other quote follows that could close the run. -/
def quotedRun? (mark : Char) : List Char → Option (List Char × List Char)
  | [] => none
  | '\\' :: c :: rest =>
    if c = mark then
      match quotedRun? mark rest with
      | some (run, behind) => some ('\\' :: c :: run, behind)
      | none => some (['\\'], rest)
    else (quotedRun? mark (c :: rest)).map fun (run, behind) => ('\\' :: run, behind)
  | c :: rest =>
    if c = mark then some ([], rest)
    else (quotedRun? mark rest).map fun (run, behind) => (c :: run, behind)

/-- The character that an escape stands for between the given quotes. -/
def escaped? (mark c : Char) : Option Char :=
  if c = '\\' then some '\\'
  else if c = '\'' then some '\''
  else if mark = '\'' then none
  else ([('"', '"'), ('a', '\x07'), ('b', '\x08'), ('f', '\x0c'), ('n', '\n'), ('r', '\r'),
    ('t', '\t'), ('v', '\x0b')].lookup c)

/-- The characters with their escapes resolved. -/
def unescape (mark : Char) : List Char → List Char
  | '\\' :: c :: rest =>
    match escaped? mark c with
    | some x => x :: unescape mark rest
    | none => '\\' :: unescape mark (c :: rest)
  | c :: rest => c :: unescape mark rest
  | [] => []

/-- A bare value without the comment that a blank separates from it. -/
def withoutComment : List Char → List Char
  | [] => []
  | c :: rest =>
    if isBlank c && (rest.dropWhile isBlank).head? == some '#' then [] else c :: withoutComment rest

/-- The value behind an equals sign. -/
def value? (cs : List Char) : Option (String × List Char) :=
  match cs with
  | '\'' :: rest => (quotedRun? '\'' rest).map fun (run, behind) =>
      (String.ofList (unescape '\'' run), behind)
  | '"' :: rest => (quotedRun? '"' rest).map fun (run, behind) =>
      (String.ofList (unescape '"' run), behind)
  | cs =>
    let run := cs.takeWhile fun c => c != '\n' && c != '\r'
    some (String.ofList (trimRight (withoutComment run)), cs.drop run.length)

/-- A name with its value; the value is missing when no equals sign follows the name. -/
structure Binding where
  name : Option String
  value : Option String

/-- The binding at the start of the characters and what follows its line, or the characters at
which the line stops to make sense. -/
def binding (cs : List Char) : Except (List Char) (Binding × List Char) := do
  let start := dropExport cs
  let (name, behind) ← orAt start (name? start)
  match behind.dropWhile isInnerBlank with
  | '=' :: rest => do
    let start := rest.dropWhile isInnerBlank
    let (value, behind) ← orAt start (value? start)
    let next ← orAt behind (lineEnd? behind)
    pure ({ name, value := some value }, next)
  | rest => do
    let next ← orAt rest (lineEnd? rest)
    pure ({ name, value := none }, next)
where
  orAt {α : Type} (place : List Char) : Option α → Except (List Char) α
    | some a => .ok a
    | none => .error place

/-- The bindings of a text, in order. -/
def bindings : Nat → List Char → List Binding
  | 0, _ => []
  | fuel + 1, cs =>
    match cs.dropWhile isBlank with
    | [] => []
    | start =>
      match binding start with
      | .ok (b, next) => b :: bindings fuel next
      | .error place => bindings fuel (dropLine place)

/-- The characters with each name in braces replaced by its value. A name without value has an
empty one, and a name that is not known its default. -/
def interpolate (lookup : String → Option (Option String)) : Nat → List Char → List Char
  | 0, _ => []
  | _, [] => []
  | fuel + 1, '$' :: '\x7b' :: rest =>
    let name := rest.takeWhile fun c => c != '\x7d' && c != ':'
    let found (fallback : List Char) : List Char :=
      match lookup (String.ofList name) with
      | some value => (value.getD "").toList
      | none => fallback
    match rest.drop name.length with
    | '\x7d' :: behind => found [] ++ interpolate lookup fuel behind
    | ':' :: '-' :: behind =>
      let fallback := behind.takeWhile (· != '\x7d')
      match behind.drop fallback.length with
      | '\x7d' :: next => found fallback ++ interpolate lookup fuel next
      | _ => '$' :: interpolate lookup fuel ('\x7b' :: rest)
    | _ => '$' :: interpolate lookup fuel ('\x7b' :: rest)
  | fuel + 1, c :: rest => c :: interpolate lookup fuel rest

/-- Names with their values, if they have any. -/
abbrev Bound := NamedList (Option String)

/-- The values of the bindings, later ones over earlier ones. The environment counts before
the values of the file where a value refers to a name. -/
def resolve (environment : List (String × String)) (all : List Binding) : Bound :=
  all.foldl (fun known b =>
    match b.name with
    | none => known
    | some name =>
      let lookup (n : String) := ((environment.lookup n).map some).or (known.lookup n)
      known.insert name (b.value.map fun text =>
        String.ofList (interpolate lookup (text.length + 1) text.toList))) []

/-- The variable that keeps the environment file from being read, and the words for that. -/
def disablingVariable : String := "PYTHON_DOTENV_DISABLED"
def disablingWords : List String := ["1", "true", "t", "yes", "y"]

/-- Whether the environment keeps the file from being read; the case of the word, and that of
a long s in it, make no difference. -/
def isDisabled (environment : List (String × String)) : Bool :=
  (environment.lookup disablingVariable).any fun word =>
    disablingWords.contains
      (String.ofList (word.toList.map fun c => if c = 'ſ' then 's' else lowerAscii c))

/-- What no environment can take. -/
inductive Fault where
  /-- A null character in a name or a value. -/
  | nullCharacter
  /-- An equals sign in a name. -/
  | equalsInName
  deriving Repr, DecidableEq

/-- The wording of a fault. -/
def Fault.message : Fault → String
  | .nullCharacter => "embedded null byte"
  | .equalsInName => "illegal environment variable name"

/-- A name with its value as an environment takes it. -/
def entry (name value : String) : Except Fault (String × String) :=
  if name.contains '\x00' || value.contains '\x00' then .error .nullCharacter
  else if name.contains '=' then .error .equalsInName
  else .ok (name, value)

/-- The environment with the names of a file that it lacks. A byte-order mark at the start of
the text is no part of a name. -/
def extend (environment : List (String × String)) (text : String) :
    Except Fault (List (String × String)) := do
  let cs := match text.toList with
    | '\uFEFF' :: rest => rest
    | cs => cs
  let known := resolve environment (bindings (cs.length + 1) cs)
  let added ← (known.filter fun b => (environment.lookup b.1).isNone).filterMapM fun b =>
    b.2.mapM (entry b.1)
  pure (environment ++ added)

end TypedSheets.EnvironmentFile
