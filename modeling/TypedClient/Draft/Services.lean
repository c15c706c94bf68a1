import TypedClient.Draft
import TypedClient.Text.Basic

/-!
# Tags and services

An operation belongs to the service of its first tag. A tag filter keeps the operations that have
one of the included tags, when there are any, and none of the excluded ones.
-/

namespace TypedClient

/-- Which operations are kept. -/
structure TagFilter where
  /-- A kept operation has one of these tags, unless the list holds nothing but blanks. -/
  included : List String := []
  /-- A kept operation has none of these tags. -/
  excluded : List String := []
deriving Repr

namespace TagFilter

/-- The tags of a list without blanks around them; blank ones do not count. -/
def tagsOf (tags : List String) : List String :=
  (tags.map Text.trim).filter (· != "")

/-- Whether an operation with the given tags is kept. -/
def allows (f : TagFilter) (tags : List String) : Bool :=
  let included := tagsOf f.included
  (included.isEmpty || tags.any included.contains) && !tags.any (tagsOf f.excluded).contains

end TagFilter

namespace Service

/-- The tag of the service for operations without one. -/
def untagged : String := "Default"

/-- The tag of the service that an operation belongs to. -/
def tagOf (op : Operation) : String :=
  if op.tag = "" then untagged else op.tag

/-- Adds an operation to its service, which comes last when it is new. -/
def add : List Service → Operation → List Service
  | [], op => [{ tag := tagOf op, operations := [op] }]
  | s :: rest, op =>
      if s.tag = tagOf op then { s with operations := s.operations ++ [op] } :: rest
      else s :: add rest op

/-- The services of a list of operations, in the order of their first operations. -/
def ofOperations (operations : List Operation) : List Service :=
  operations.foldl add []

end Service

end TypedClient
