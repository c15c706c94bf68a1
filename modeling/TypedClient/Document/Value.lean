import TypedClient.Document.Dict
import TypedClient.Number.Binary64

/-!
# Document values

The values of a decoded YAML or JSON document. Whole numbers keep the width they were read with,
because later stages tell them apart from doubles: a YAML integer is an `int`, one beyond the
signed range a `uint`, and every other number a `float`.
-/

namespace TypedClient

/-- A node of a decoded document. The entries of a mapping are in ascending key order. -/
inductive Value where
  | null
  | bool (b : Bool)
  | int (n : Int)
  | int64 (n : Int)
  | uint (n : Nat)
  | float (x : Binary64)
  | text (s : String)
  | list (items : List Value)
  | mapping (entries : List (String × Value))
deriving Inhabited, Repr

namespace Value

/-- Whether the value is null. -/
def isNull : Value → Bool
  | .null => true
  | _ => false

/-- The text of a text node. -/
def text? : Value → Option String
  | .text s => some s
  | _ => none

/-- The text of a text node, or the empty text. -/
def textOrEmpty (v : Value) : String :=
  v.text?.getD ""

/-- The truth value of a Boolean node. -/
def bool? : Value → Option Bool
  | .bool b => some b
  | _ => none

/-- The items of a list node. -/
def list? : Value → Option (List Value)
  | .list items => some items
  | _ => none

/-- The entries of a mapping node. -/
def mapping? : Value → Option (Dict Value)
  | .mapping entries => some entries
  | _ => none

/-- The entries of a mapping node; any other node has none. -/
def entries (v : Value) : Dict Value :=
  v.mapping?.getD []

/-- The value under a key of a mapping node. -/
def get? (v : Value) (key : String) : Option Value :=
  Dict.get? v.entries key

/-- The value under a key of a mapping node, or null. -/
def field (v : Value) (key : String) : Value :=
  (v.get? key).getD .null

/-- The word for the kind of value, as messages and shapes spell it. -/
def typeName : Value → String
  | .null => "<nil>"
  | .bool _ => "bool"
  | .int _ => "int"
  | .int64 _ => "int64"
  | .uint _ => "uint64"
  | .float _ => "float64"
  | .text _ => "string"
  | .list _ => "[]interface \x7b\x7d"
  | .mapping _ => "map[string]interface \x7b\x7d"

end Value

end TypedClient
