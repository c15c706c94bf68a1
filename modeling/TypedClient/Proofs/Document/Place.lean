import TypedClient.Document.Value

/-!
# Places in a value

A place in a value is a way of keys and positions. `at?` finds what stands there.
-/

namespace TypedClient

namespace Value

/-- A step from a value to one of its parts. -/
inductive Step where
  | key (name : String)
  | item (position : Nat)
deriving DecidableEq

/-- The part of a value that a step leads to. -/
def step? (v : Value) : Step → Option Value
  | .key name => v.get? name
  | .item position => v.list?.bind (fun items => items[position]?)

/-- What stands at a place of a value. -/
def at? (v : Value) : List Step → Option Value
  | [] => some v
  | step :: path => (v.step? step).bind (fun w => w.at? path)

/-- A value with null in place of its parts: the keys of a mapping, the length of a list. -/
def shell : Value → Value
  | .list items => .list (items.map (fun _ => .null))
  | .mapping entries => .mapping (entries.map (fun e => (e.1, .null)))
  | v => v

end Value

end TypedClient
