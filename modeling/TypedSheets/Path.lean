import TypedSheets.Text.Lines

/-!
# Paths

A path is a root and a list of components. Components that are empty or a single
point vanish on reading, so repeated and trailing slashes make no difference;
double points stay. One leading slash makes a path absolute; exactly two make a
root of their own; three or more count as one.
-/

namespace TypedSheets

open TypedSheets.Text

/-- Where a path starts. -/
inductive PathRoot where
  | relative
  | absolute
  | doubleSlash
  deriving Repr, DecidableEq

structure Path where
  root : PathRoot
  parts : List String
  deriving Repr, DecidableEq

namespace Path

/-- The components of a text between its slashes. -/
def partsOf (cs : List Char) : List String :=
  ((splitOn '/' cs).map String.ofList).filter fun part => part != "" && part != "."

/-- The root that the leading slashes of a text stand for. -/
def rootOf : List Char → PathRoot
  | '/' :: '/' :: '/' :: _ => .absolute
  | '/' :: '/' :: _ => .doubleSlash
  | '/' :: _ => .absolute
  | _ => .relative

/-- The path that a text denotes. -/
def ofText (text : String) : Path :=
  { root := rootOf text.toList, parts := partsOf text.toList }

/-- The text of a root. -/
def rootText : PathRoot → String
  | .relative => ""
  | .absolute => "/"
  | .doubleSlash => "//"

/-- The components between slashes behind the root; a single point for the empty path. -/
def text (p : Path) : String :=
  if p.root = .relative ∧ p.parts = [] then "." else rootText p.root ++ "/".intercalate p.parts

/-- The second path below the first; an absolute second path replaces the first. -/
def join (p q : Path) : Path :=
  if q.root = .relative then { p with parts := p.parts ++ q.parts } else q

/-- The path that a text denotes below a path. -/
def child (p : Path) (name : String) : Path := p.join (ofText name)

/-- The last component; empty for a root or the empty path. -/
def name (p : Path) : String := p.parts.getLast?.getD ""

/-- The path without its last component. -/
def parent (p : Path) : Path := { p with parts := p.parts.dropLast }

/-- Whether the path starts at a root. -/
def isAbsolute (p : Path) : Bool := p.root != .relative

/-- The last point of a name that has characters on both sides, cutting it into the stem
and the suffix with the point. -/
def splitName (name : String) : String × String :=
  let reversed := name.toList.reverse
  let extension := reversed.takeWhile (· != '.')
  match reversed.dropWhile (· != '.') with
  | '.' :: stem =>
    if extension.isEmpty || stem.isEmpty then (name, "")
    else (String.ofList stem.reverse, String.ofList ('.' :: extension.reverse))
  | _ => (name, "")

/-- The name without its suffix. -/
def stem (p : Path) : String := (splitName p.name).1

/-- The last point of the name and what follows it. -/
def suffix (p : Path) : String := (splitName p.name).2

end Path

end TypedSheets
