import TypedClient.Draft.Merge
import TypedClient.Fault

/-!
# Resolved drafts

In a resolved draft every reference targets the pointer of a model. The references are followed
depth-first from each model in turn. A model is open while the references below it are followed,
and a reference to an open model closes a cycle: it is marked lazy and not followed.
-/

namespace TypedClient.Draft

/-- The first model at a pointer. -/
def modelAt? (d : Draft) (pointer : String) : Option Model :=
  d.models.find? (fun m => m.pointer = pointer)

/-- The visited models, latest first, each with the models that were open while its references
were followed; it is among them itself. -/
abbrev Visits := List (String × List String)

namespace Visits

/-- Whether a model was visited. -/
def contains (v : Visits) (pointer : String) : Bool :=
  (v.lookup pointer).isSome

/-- The models that were open while the references of a model were followed. -/
def openAt (v : Visits) (pointer : String) : List String :=
  (v.lookup pointer).getD []

end Visits

/-- Follows references in turn. `closed` holds the pointers that are not open, and every model
that is entered leaves it, so the search ends. -/
def follow (d : Draft) (closed opened : List String) (visits : Visits) :
    List Traits → Except Unresolved Visits
  | [] => .ok visits
  | ref :: rest =>
      match d.modelAt? ref.target with
      | none => .error ⟨ref.target, ref.pointer⟩
      | some m =>
          if visits.contains ref.target then d.follow closed opened visits rest
          else if _h : ref.target ∈ closed then
            match d.follow (closed.erase ref.target) (ref.target :: opened) visits
                m.referenceNodes with
            | .error e => .error e
            | .ok below =>
                d.follow closed opened ((ref.target, ref.target :: opened) :: below) rest
          else d.follow closed opened visits rest
termination_by refs => (closed.length, refs.length)
decreasing_by
  all_goals simp_wf
  all_goals first
    | (apply Prod.Lex.right; omega)
    | (apply Prod.Lex.left
       have := List.length_erase_of_mem _h
       have := List.length_pos_of_mem _h
       omega)

/-- Visits one model, unless it was visited. -/
def visit (d : Draft) (visits : Visits) (m : Model) : Except Unresolved Visits :=
  if visits.contains m.pointer then .ok visits
  else
    let closed := (d.models.map Model.pointer).eraseDups.erase m.pointer
    (d.follow closed [m.pointer] visits m.referenceNodes).map
      (fun below => (m.pointer, [m.pointer]) :: below)

/-- A node that is marked lazy when it refers to an open model. -/
def markNode (opened : List String) (t : Traits) : Traits :=
  if t.isReference && opened.contains t.target then { t with lazy := true } else t

/-- The first model at each pointer with its references to open models marked; another model at
the same pointer is not looked at. -/
def marked (visits : Visits) : (seen : List String) → List Model → List Model
  | _, [] => []
  | seen, m :: rest =>
      if seen.contains m.pointer then m :: marked visits seen rest
      else
        m.mapTraits (markNode (visits.openAt m.pointer)) ::
          marked visits (m.pointer :: seen) rest

/-- Finds a reference of the operations that leads nowhere. -/
def danglingOperation? (d : Draft) : Option Traits :=
  (d.services.flatMap Service.referenceNodes).find?
    (fun t => (d.modelAt? t.target).isNone)

/-- The resolved draft, with any digest of shapes. -/
def resolveBy (digest : String → UInt64) (d : Draft) : Except Unresolved Draft := do
  let d := d.merged digest
  let visits ← d.models.foldlM d.visit []
  match d.danglingOperation? with
  | some t => throw ⟨t.target, t.pointer⟩
  | none => return { d with models := marked visits [] d.models }

/-- The draft with equal anonymous models merged, every reference checked and those that close a
cycle marked. -/
def resolve (d : Draft) : Except Unresolved Draft :=
  d.resolveBy String.hash

end TypedClient.Draft
