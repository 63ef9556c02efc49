import TypedSheets.Path

/-!
# Places of generated files

Everything generated lies below a directory of one fixed name, under the two
destinations that a run is given: modules by their role, assets by schema and
sheet.
-/

namespace TypedSheets.Emission

/-- The directory below each destination. -/
def rootDirectory : String := "MasterData"

/-- Where a run puts its files. -/
structure Destination where
  code : Path
  asset : Path
  /-- The package that the generated modules belong to. -/
  project : Option String
  deriving Repr, DecidableEq

namespace Destination

variable (d : Destination)

def codeRoot : Path := d.code.child rootDirectory

def assetRoot : Path := d.asset.child rootDirectory

/-- The dotted name under which the code root is imported. -/
def baseNamespace : String :=
  match d.project with
  | some project => if project = "" then rootDirectory else project ++ "." ++ rootDirectory
  | none => rootDirectory

/-- The directory of the generated modules of one role. -/
def generated (role : String) : Path := (d.codeRoot.child role).child "Generated"

def typePath (schema : String) : Path := (d.generated "Type").child (schema ++ "Type.py")

def recordPath (schema sheet : String) : Path :=
  ((d.generated "VO").child schema).child (sheet ++ "VO.py")

def containerPath (schema sheet : String) : Path :=
  ((d.generated "DTO").child schema).child (sheet ++ "DTO.py")

def accessorPath (schema sheet : String) : Path :=
  ((d.generated "DAO").child schema).child (sheet ++ "DAO.py")

def exporterPath (schema : String) : Path :=
  (((d.codeRoot.child "Editor").child "Exporter").child "Generated").child
    (schema ++ "Exporter.py")

def registryPath : Path := (d.generated "Collection").child "Registry.py"

end Destination

/-- The asset of a sheet below an asset root. -/
def assetPath (root : Path) (schema sheet : String) : Path :=
  (root.child schema).child (sheet ++ ".asset")

end TypedSheets.Emission
