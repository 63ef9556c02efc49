import TypedSheets.Path
import TypedSheets.Text.Quoted
import TypedSheets.Text.Utf8
import TypedSheets.TypedSheet

/-!
# File trees

A file tree is a finite table from locations to files and directories. A location is
what a path leads to: its components from the working directory on, each step
through an existing directory, with double points going back. Every operation gives
the changed tree, or the fault and the path that it arose at, and then the tree is
as before. Only `makeDirectories` may leave a part of its work behind when it fails.
-/

namespace TypedSheets

open TypedSheets.Number TypedSheets.Text

/-- What a file holds: bytes, or a workbook of a spreadsheet program. -/
inductive FileContent where
  | bytes (data : List UInt8)
  | workbook (sheets : List TypedSheet)
  deriving Repr

/-- Whether a file consists of some bytes. -/
def FileContent.holds (data : List UInt8) : FileContent → Bool
  | .bytes own => own == data
  | .workbook _ => false

inductive FileEntry where
  | directory
  | file (content : FileContent)
  deriving Repr

/-- Components from the working directory on. -/
abbrev Location := List String

structure FileTree where
  entries : List (Location × FileEntry) := []
  deriving Repr

/-- What can be wrong with a path. -/
inductive FileFault where
  | notFound
  | exists_
  | notDirectory
  | isDirectory
  | nameTooLong
  deriving Repr, DecidableEq

/-- The number and the wording of a fault. -/
def FileFault.parts : FileFault → Nat × String
  | .notFound => (2, "No such file or directory")
  | .exists_ => (17, "File exists")
  | .notDirectory => (20, "Not a directory")
  | .isDirectory => (21, "Is a directory")
  | .nameTooLong => (36, "File name too long")

/-- The name of a fault's kind. -/
def FileFault.kindName : FileFault → String
  | .notFound => "FileNotFoundError"
  | .exists_ => "FileExistsError"
  | .notDirectory => "NotADirectoryError"
  | .isDirectory => "IsADirectoryError"
  | .nameTooLong => "OSError"

inductive FileError where
  /-- The operation fails at a path. -/
  | system (fault : FileFault) (path : Path)
  /-- A path with a null character leads nowhere; directories have a wording of their own. -/
  | embeddedNull (making : Bool)
  deriving Repr, DecidableEq

/-- The wording of a failure. -/
def FileError.message : FileError → String
  | .system fault path =>
    "[Errno " ++ integerText fault.parts.1 ++ "] " ++ fault.parts.2 ++ ": " ++ quote path.text
  | .embeddedNull false => "embedded null byte"
  | .embeddedNull true => "mkdir: embedded null character in path"

namespace FileTree

/-- The greatest number of bytes of a component, and the least that a path must not reach. -/
def nameLimit : Nat := 255
def pathLimit : Nat := 4096

/-- The number of bytes of a text. -/
def byteCount (text : String) : Nat := (encodeUtf8 text).length

/-- The working directory and those above it always exist, as does the root. -/
def isGiven (at_ : Location) : Bool := at_.all (· == "..") || at_ == ["/"]

/-- What stands at a location. -/
def entry? (t : FileTree) (at_ : Location) : Option FileEntry :=
  if isGiven at_ then some .directory else t.entries.lookup at_

/-- One directory up. -/
def up (at_ : Location) : Location :=
  if isGiven at_ then if at_ = ["/"] then at_ else ".." :: at_ else at_.dropLast

/-- Follows components from a location on. Each step needs a directory to start from. -/
def walk (t : FileTree) (at_ : Location) : List String → Except FileFault Location
  | [] => .ok at_
  | name :: rest =>
    match t.entry? at_ with
    | none => .error .notFound
    | some (.file _) => .error .notDirectory
    | some .directory =>
      if name = ".." then t.walk (up at_) rest
      else if nameLimit < byteCount name then .error .nameTooLong
      else t.walk (at_ ++ [name]) rest

/-- The location that a path leads to; nothing need stand there. -/
def locate (t : FileTree) (p : Path) : Except FileFault Location :=
  if pathLimit ≤ byteCount p.text then .error .nameTooLong
  else t.walk (if p.isAbsolute then ["/"] else []) p.parts

/-- What a path leads to. -/
def status (t : FileTree) (p : Path) : Except FileFault FileEntry :=
  match t.locate p with
  | .error fault => .error fault
  | .ok at_ => match t.entry? at_ with
    | some entry => .ok entry
    | none => .error .notFound

/-- A path with a null character. -/
def hasNull (p : Path) : Bool := p.parts.any fun part => part.toList.contains '\x00'

/-- Whether a path leads to an entry of some kind. A path that leads nowhere is no error,
one that cannot be looked up is. -/
def holds (t : FileTree) (p : Path) (kind : FileEntry → Bool) : Except FileError Bool :=
  if hasNull p then .ok false
  else match t.status p with
    | .ok entry => .ok (kind entry)
    | .error .nameTooLong => .error (.system .nameTooLong p)
    | .error _ => .ok false

def isDirectory : FileEntry → Bool
  | .directory => true
  | .file _ => false

/-- Whether there is anything at a path. -/
def exists? (t : FileTree) (p : Path) : Except FileError Bool := t.holds p fun _ => true

/-- Whether there is a directory at a path. -/
def isDir? (t : FileTree) (p : Path) : Except FileError Bool := t.holds p isDirectory

/-- Whether there is a file at a path. -/
def isFile? (t : FileTree) (p : Path) : Except FileError Bool := t.holds p fun e => !isDirectory e

/-- What the file at a path holds. -/
def read (t : FileTree) (p : Path) : Except FileError FileContent :=
  if hasNull p then .error (.embeddedNull false)
  else match t.status p with
    | .ok (.file content) => .ok content
    | .ok .directory => .error (.system .isDirectory p)
    | .error fault => .error (.system fault p)

/-- Puts an entry at a location: in the place of the one there, or at the end. -/
def put (at_ : Location) (entry : FileEntry) :
    List (Location × FileEntry) → List (Location × FileEntry)
  | [] => [(at_, entry)]
  | (other, old) :: rest =>
    if other = at_ then (at_, entry) :: rest else (other, old) :: put at_ entry rest

/-- With a file at a path, in the place of the file that was there. -/
def write (t : FileTree) (p : Path) (content : FileContent) : Except FileError FileTree :=
  if hasNull p then .error (.embeddedNull false)
  else match t.locate p with
    | .error fault => .error (.system fault p)
    | .ok at_ => match t.entry? at_ with
      | some .directory => .error (.system .isDirectory p)
      | _ => .ok { entries := put at_ (.file content) t.entries }

/-- With bytes behind those of the file at a path, which is new if there was none. -/
def append (t : FileTree) (p : Path) (data : List UInt8) : Except FileError FileTree :=
  let before := match t.read p with
    | .ok (.bytes old) => old
    | _ => []
  t.write p (.bytes (before ++ data))

/-- With a new directory at a path, whose parent must exist. -/
def makeDirectory (t : FileTree) (p : Path) : Except FileError FileTree :=
  if hasNull p then .error (.embeddedNull true)
  else match t.locate p with
    | .error fault => .error (.system fault p)
    | .ok at_ => match t.entry? at_ with
      | some _ => .error (.system .exists_ p)
      | none => .ok { entries := put at_ .directory t.entries }

/-- A failure to make a directory does not count when there is one. -/
def unlessDirectory (t : FileTree) (p : Path) (failure : FileError) : Except FileError Unit :=
  match t.isDir? p with
  | .error e => .error e
  | .ok true => .ok ()
  | .ok false => .error failure

/-- With a directory at a path, and at every path above it. The missing ones are made from
the outermost on; those that could be made stay also when a later one cannot. -/
def makeDirectories : Nat → Path → FileTree → Except FileError Unit × FileTree
  | 0, p, t => (.error (.system .notFound p), t)
  | fuel + 1, p, t =>
    match t.makeDirectory p with
    | .ok made => (.ok (), made)
    | .error (.embeddedNull making) => (.error (.embeddedNull making), t)
    | .error (.system .notFound path) =>
      if p.parts.isEmpty then (.error (.system .notFound path), t)
      else
        match makeDirectories fuel p.parent t with
        | (.error e, partly) => (.error e, partly)
        | (.ok (), above) =>
          match above.makeDirectory p with
          | .ok made => (.ok (), made)
          | .error (.system .notFound path) => (.error (.system .notFound path), above)
          | .error failure => (above.unlessDirectory p failure, above)
    | .error failure => (t.unlessDirectory p failure, t)

/-- The names directly below a directory. -/
def names (t : FileTree) (p : Path) : Except FileError (List String) :=
  match t.status p with
  | .error fault => .error (.system fault p)
  | .ok (.file _) => .error (.system .notDirectory p)
  | .ok .directory =>
    match t.locate p with
    | .error fault => .error (.system fault p)
    | .ok at_ => .ok (t.entries.filterMap fun entry =>
      match entry.1.getLast? with
      | some name => if entry.1.dropLast = at_ then some name else none
      | none => none)

/-- Without the file at a path. -/
def remove (t : FileTree) (p : Path) : Except FileError FileTree :=
  match t.locate p with
  | .error fault => .error (.system fault p)
  | .ok at_ => match t.entry? at_ with
    | none => .error (.system .notFound p)
    | some .directory => .error (.system .isDirectory p)
    | some (.file _) => .ok { entries := t.entries.filter fun entry => entry.1 != at_ }

/-- Without a location and everything below it. -/
def prune (t : FileTree) (at_ : Location) : FileTree :=
  { entries := t.entries.filter fun entry => !at_.isPrefixOf entry.1 }

/-- The files with their locations. -/
def files (t : FileTree) : List (Location × FileContent) :=
  t.entries.filterMap fun entry =>
    match entry.2 with
    | .file content => some (entry.1, content)
    | .directory => none

/-- The files of bytes below the working directory, in the order of their components. -/
def localFiles (t : FileTree) : List (Location × List UInt8) :=
  let found := t.files.filterMap fun (at_, content) =>
    match at_.head?, content with
    | some "..", _ => none
    | some "/", _ => none
    | _, .bytes data => some (at_, data)
    | _, .workbook _ => none
  found.mergeSort fun a b => (compare a.1 b.1).isLE

end FileTree

end TypedSheets
