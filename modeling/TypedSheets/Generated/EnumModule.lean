import TypedSheets.Generated.Name
import TypedSheets.Schema.Enumeration

/-!
# Loaded enumeration modules

The enumeration module of a schema file defines its enumerations one after another. The
last of several with one name is the one that others import. An enumeration is derived
from what its base is called, so an enumeration with that name is the base of those that
follow it.
-/

namespace TypedSheets.Generated

open TypedSheets.Schema TypedSheets.Text

/-- What the base of every enumeration is called. -/
def enumBase : String := "IntEnum"

/-- The member name that enumerations keep for themselves. -/
def keptMember : String := "mro"

/-- The members of an enumeration under their names; no two have one name. -/
def loadMembers (done : List EnumMember) : List EnumMember → Except LoadError (List EnumMember)
  | [] => .ok done
  | m :: rest =>
    let name := normalForm m.name
    match done.find? fun other => other.name == name with
    | some other => .error (.repeatedMember name other.value)
    | none => loadMembers (done ++ [{ name, value := m.value }]) rest

/-- An enumeration behind those that are defined already. -/
def loadEnumeration (done : List Enumeration) (e : Enumeration) :
    Except LoadError Enumeration := do
  let name := normalForm e.name
  if done.any fun other => other.name == enumBase then throw (.closedBase name enumBase)
  let members ← loadMembers [] e.members
  if members.any fun m => m.name == keptMember then throw (.reservedMember keptMember)
  pure { name, members }

/-- The enumerations in the order of their definitions. -/
def loadEnumerations (done : List Enumeration) :
    List Enumeration → Except LoadError (List Enumeration)
  | [] => .ok done
  | e :: rest => do
    let loaded ← loadEnumeration done e
    loadEnumerations (done ++ [loaded]) rest

/-- The line of the first class in an enumeration module: behind its head, a line for each
name, a bracket and two empty lines. -/
def firstClassLine (enums : List Enumeration) : Nat := enums.length + 8

/-- The line of the class whose name no module may bind, if there is one. -/
def unboundClassLine? (line : Nat) : List Enumeration → Option Nat
  | [] => none
  | e :: rest =>
    if normalForm e.name = unboundName then some line
    else unboundClassLine? (line + e.members.length + 3) rest

/-- The enumerations that the module of a schema file defines. -/
def loadEnumModule (schema : String) (enums : List Enumeration) :
    Except LoadError (List Enumeration) :=
  match unboundClassLine? (firstClassLine enums) enums with
  | some line => .error (bindsUnbound (schema ++ "Type.py") line)
  | none => loadEnumerations [] enums

/-- The enumeration that an import of a name gives. -/
def importEnumeration? (defined : List Enumeration) (name : String) : Option Enumeration :=
  defined.reverse.find? fun e => e.name == normalForm name

end TypedSheets.Generated
