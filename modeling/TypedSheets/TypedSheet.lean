import TypedSheets.Value.Text

/-!
# Typed sheets

A decoded schema file holds cells of many types; the grid of a sheet holds their texts.
-/

namespace TypedSheets

/-- A sheet as it is decoded. -/
structure TypedSheet where
  name : String
  rows : List (List Value)
  deriving Repr

end TypedSheets
