import TypedClient.Document.Pointer
import TypedClient.Description.Field
import TypedClient.Fault

/-!
# Following references

A parameter, a body, a response or a path may be described elsewhere in the document, at the end
of a chain of references. A chain that leads nowhere or comes back to a reference it has followed
is unresolved.
-/

namespace TypedClient.Value

mutual

/-- The texts under the key `$ref` of all mappings in a value. -/
def targets : Value → List String
  | .list items => targetsOfItems items
  | .mapping entries => targetsOfEntries entries
  | .null | .bool _ | .int _ | .int64 _ | .uint _ | .float _ | .text _ => []

/-- The reference texts in the items of a list. -/
def targetsOfItems : List Value → List String
  | [] => []
  | v :: rest => v.targets ++ targetsOfItems rest

/-- The reference texts in the entries of a mapping. -/
def targetsOfEntries : List (String × Value) → List String
  | [] => []
  | (key, v) :: rest =>
      (if key = "$ref" then v.text?.toList else []) ++ v.targets ++ targetsOfEntries rest

end

/-- Follows a chain of references from `target`. `unseen` holds the references of the document
that were not followed yet; each step takes one away, so the chain ends. -/
def chase (doc : Value) (unseen : List String) (referrer target : String) :
    Except Unresolved (String × Value) :=
  match Pointer.lookup? doc target with
  | none => .error ⟨target, referrer⟩
  | some v =>
      match Field.target? v.entries with
      | none => .ok (target, v)
      | some next =>
          if _h : next ∈ unseen then doc.chase (unseen.erase next) referrer next
          else .error ⟨next, referrer⟩
termination_by unseen.length
decreasing_by
  have := List.length_erase_of_mem _h
  have := List.length_pos_of_mem _h
  omega

/-- The end of the chain of references that starts at `target`: the last reference and what it
refers to. -/
def dereference (doc : Value) (referrer target : String) : Except Unresolved (String × Value) :=
  doc.chase (doc.targets.eraseDups.erase target) referrer target

end TypedClient.Value
