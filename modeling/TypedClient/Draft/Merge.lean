import TypedClient.Draft
import TypedClient.Model.Shape

/-!
# Merging anonymous models

Anonymous models of one shape are one type: the first of them stays, and what referred to the
others refers to it. Shapes are compared as the draft has them, before any reference changes.
Models of one shape are looked for among those with the same digest of their shape, whatever the
digest is.
-/

namespace TypedClient.Draft

/-- The models that stay, latest first, and the pointers of the merged models with the pointers
that replace them, latest first. -/
structure Merge where
  /-- The models that stay. -/
  kept : List Model := []
  /-- The replacements. -/
  replaced : List (String × String) := []

namespace Merge

variable (digest : String → UInt64)

/-- The earliest kept anonymous model with the given shape. -/
def representative? (g : Merge) (shape : String) : Option Model :=
  (g.kept.reverse.filter (fun m => m.anonymous && digest m.shape == digest shape)).find?
    (fun m => m.shape == shape)

/-- Takes one more model. -/
def add (g : Merge) (m : Model) : Merge :=
  if m.anonymous then
    match g.representative? digest m.shape with
    | some first => { g with replaced := (m.pointer, first.pointer) :: g.replaced }
    | none => { g with kept := m :: g.kept }
  else { g with kept := m :: g.kept }

/-- The merge of a list of models. -/
def ofModels (models : List Model) : Merge :=
  models.foldl (add digest) {}

/-- What a target becomes. -/
def retarget (g : Merge) (target : String) : String :=
  (g.replaced.lookup target).getD target

end Merge

/-- A node whose target is changed when it is a reference. -/
def retargetNode (f : String → String) (t : Traits) : Traits :=
  if t.isReference then { t with target := f t.target } else t

/-- A draft in which the anonymous models of one shape are one model. -/
def merged (digest : String → UInt64) (d : Draft) : Draft :=
  let g := Merge.ofModels digest d.models
  { d with models := g.kept.reverse }.mapModels (Model.mapTraits (retargetNode g.retarget))

end TypedClient.Draft
