import TypedSheets.Accessor
import TypedSheets.AssetFile

/-!
# Registries

A registry holds accessors of different types in the order of their registration.
Loading all of them goes on behind an asset that fails: the failure is logged and the
name of its accessor is reported. Loading concurrently changes the order in which
accessors are filled, not the order of the reports.
-/

namespace TypedSheets

open TypedSheets.Text

structure Registry where
  accessors : List Accessor := []
  deriving Repr

namespace Registry

/-- The accessor of a type. -/
def find? (r : Registry) (identity : Nat) : Option Accessor :=
  r.accessors.find? fun a => a.type.identity == identity

/-- With a further accessor, whose type must be new. -/
def register (r : Registry) (a : Accessor) : Except Failure Registry :=
  if (r.find? a.type.identity).isSome then .error (.alreadyRegistered a.type.className)
  else .ok { accessors := r.accessors ++ [a] }

/-- With a new accessor of each type. -/
def registerAll (r : Registry) : List AccessorType → Except Failure Registry
  | [] => .ok r
  | t :: rest => do registerAll (← r.register t.new) rest

/-- The accessor of a type, which must be registered. -/
def get (r : Registry) (t : AccessorType) : Except Failure Accessor :=
  match r.find? t.identity with
  | some a => .ok a
  | none => .error (.notRegistered t.className)

/-- The first accessor of a dataset. -/
def byName? (r : Registry) (name : String) : Option Accessor :=
  r.accessors.find? fun a => a.type.name == name

/-- Every accessor back in its state before the first load. -/
def clear (r : Registry) : Registry := { accessors := r.accessors.map Accessor.clear }

/-- Delivers the payload of an asset by its path. -/
abbrev Loader := String → Job Value

/-- A loader that delivers what a table lists. -/
def fromTable (table : List (String × Except Failure Value)) : Loader := fun path =>
  match table.lookup path with
  | some payload => Job.ofExcept id payload
  | none => throw (.unlisted path)

/-- The log line of an asset that fails to load. -/
def failureLine (a : Accessor) (e : Failure) : LogLine :=
  ⟨.error, "failed to load " ++ a.type.name ++ " from " ++ a.type.assetPath ++ ": " ++ e.message⟩

/-- Fetches the asset of an accessor and loads it; the accessor is as before on failure. -/
def loadOne (loader : Loader) (a : Accessor) : Job (Accessor × Option Failure) := do
  let fetched ← Job.attempt (loader a.type.assetPath)
  let (lines, outcome) := a.loadFetched fetched
  Job.logAll lines
  match outcome with
  | .ok loaded => pure (loaded, none)
  | .error e => pure (a, some e)

/-- The accessors after a load, and the names of those that failed; a cancellation ends
the load and is passed on. -/
structure Loaded where
  accessors : List Accessor
  outcome : Except Failure (List String)

/-- Loads accessors one after another. -/
def loadEach (loader : Loader) : List Accessor → Job Loaded
  | [] => pure ⟨[], .ok []⟩
  | a :: rest => do
    match ← loadOne loader a with
    | (same, some .cancelled) => pure ⟨same :: rest, .error .cancelled⟩
    | (same, some e) => do
      Job.logAll [failureLine a e]
      let others ← loadEach loader rest
      pure ⟨same :: others.accessors, others.outcome.map (a.type.name :: ·)⟩
    | (loaded, none) => do
      let others ← loadEach loader rest
      pure ⟨loaded :: others.accessors, others.outcome⟩

/-- Loads every accessor from its asset, in order. -/
def loadAll (r : Registry) (loader : Loader) : Job (Registry × Except Failure (List String)) := do
  let done ← loadEach loader r.accessors
  pure ({ accessors := done.accessors }, done.outcome)

/-- An accessor with the failure of its load, if it has failed. -/
abbrev Settled := Accessor × Option Failure

/-- Loads the accessors at the given places, in that order. -/
def settle (loader : Loader) : List Nat → List Settled → Job (List Settled)
  | [], all => pure all
  | place :: rest, all =>
    match all[place]? with
    | none => settle loader rest all
    | some (a, _) => do
      let settled ← loadOne loader a
      settle loader rest (all.set place settled)

/-- Reports failures in order of registration; a cancellation ends the report. -/
def report : List Settled → Job (Except Failure (List String))
  | [] => pure (.ok [])
  | (_, none) :: rest => report rest
  | (_, some .cancelled) :: _ => pure (.error .cancelled)
  | (a, some e) :: rest => do
    Job.logAll [failureLine a e]
    let others ← report rest
    pure (others.map (a.type.name :: ·))

/-- Loads every accessor from its asset; `order` lists the places of the accessors as their
fetches complete. -/
def loadAllAsync (r : Registry) (loader : Loader) (order : List Nat) :
    Job (Registry × Except Failure (List String)) := do
  let settled ← settle loader order (r.accessors.map fun a => (a, none))
  let outcome ← report settled
  pure ({ accessors := settled.map Prod.fst }, outcome)

end Registry

end TypedSheets
