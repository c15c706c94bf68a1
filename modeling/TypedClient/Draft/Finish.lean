import TypedClient.Draft
import TypedClient.Text.Basic

/-!
# From a draft to a client

A client holds the named models, and of the anonymous ones those that can be reached from a named
model or from an operation. Everything is sorted by name, and each model and each service lists
the models it refers to.
-/

namespace TypedClient.Draft

/-- The targets that the model of a name refers to; of several models the last counts. -/
def targetsOf (d : Draft) (name : String) : List String :=
  ((d.models.reverse.find? (fun m => m.name = name)).map Model.references).getD []

/-- The names from which reachability starts. -/
def roots (d : Draft) : List String :=
  (d.models.filter (fun m => !m.anonymous)).map Model.name ++
    (d.services.flatMap Service.referenceNodes).map Traits.target

/-- Adds the names of a list that are not there. -/
def addNew (seen : List String) : List String → List String
  | [] => seen
  | n :: rest => if seen.contains n then addNew seen rest else addNew (n :: seen) rest

/-- One round of reachability: the names seen and all that their models refer to. -/
def expand (d : Draft) (seen : List String) : List String :=
  addNew seen (seen.flatMap d.targetsOf)

/-- The names reached in a number of rounds. -/
def reach (d : Draft) : (rounds : Nat) → (seen : List String) → List String
  | 0, seen => seen
  | rounds + 1, seen =>
      let next := d.expand seen
      if next.length = seen.length then seen else d.reach rounds next

/-- The names that can be reached. Each round but the last reaches the name of one more model, or
names that belong to no model and lead no further. -/
def reachable (d : Draft) : List String :=
  d.reach (d.models.length + 1) (addNew [] d.roots)

/-- The models that a client keeps. -/
def kept (d : Draft) : List Model :=
  let names := d.reachable
  d.models.filter (fun m => names.contains m.name)

/-- The distinct targets of a list of references other than `self`, ascending. -/
def importsOf (self : String) (refs : List Traits) : List String :=
  Text.sort (((refs.map Traits.target).filter (· != self)).eraseDups)

/-- Sorts by a text, keeping the order of equals. -/
def sortBy {α : Type} (key : α → String) (xs : List α) : List α :=
  xs.mergeSort (fun a b => Text.le (key a) (key b))

/-- The client of a named draft. -/
def finish (d : Draft) : Client where
  version := d.version
  server := d.server
  models := sortBy Model.name (d.kept.map (fun m =>
    m.modify (fun t => { t with imports := importsOf t.name m.referenceNodes })))
  services := sortBy Service.name (d.services.map (fun s =>
    { s with imports := importsOf "" s.referenceNodes }))
  schemas := sortBy RawSchema.name d.schemas

end TypedClient.Draft
