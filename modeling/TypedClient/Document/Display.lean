import TypedClient.Document.Value
import TypedClient.Number.Layout

/-!
# The inline text of a value

One line of text for any value: `<nil>` for null, numbers in the general layout, text as it is,
lists between brackets with blanks between the items, and mappings as `map[key:value ...]`.
-/

namespace TypedClient.Value

mutual

/-- The inline text of a value. -/
def display : Value → String
  | .null => "<nil>"
  | .bool b => if b then "true" else "false"
  | .int n => toString n
  | .int64 n => toString n
  | .uint n => toString n
  | .float x => Layout.general.number x
  | .text s => s
  | .list items => "[" ++ " ".intercalate (displayItems items) ++ "]"
  | .mapping entries => "map[" ++ " ".intercalate (displayEntries entries) ++ "]"

/-- The inline texts of the items of a list. -/
def displayItems : List Value → List String
  | [] => []
  | v :: rest => v.display :: displayItems rest

/-- The inline texts of the entries of a mapping. -/
def displayEntries : List (String × Value) → List String
  | [] => []
  | (key, v) :: rest => (key ++ ":" ++ v.display) :: displayEntries rest

end

end TypedClient.Value
