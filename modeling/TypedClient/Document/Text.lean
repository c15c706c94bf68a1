import TypedClient.Document.Value
import TypedClient.Fault
import TypedClient.Yaml.Datum

/-!
# Documents as text

A document is written as YAML, of which JSON is a part. Mapping keys become texts, and timestamps
become the texts that a reader would have written for them.
-/

namespace TypedClient

namespace Yaml

/-- The key text of a scalar. -/
def Scalar.keyText : Scalar → String
  | .null => "<nil>"
  | .bool b => if b then "true" else "false"
  | .int n => toString n
  | .uint n => toString n
  | .float x => Layout.general.number x
  | .time t => t.keyText
  | .text s => s

/-- The document value of a scalar. -/
def Scalar.toValue : Scalar → Value
  | .null => .null
  | .bool b => .bool b
  | .int n => .int n
  | .uint n => .uint n
  | .float x => .float x
  | .time t => .text t.text
  | .text s => .text s

mutual

/-- The document value of data. -/
def Datum.toValue : Datum → Value
  | .scalar s => s.toValue
  | .list items => .list (Datum.itemValues items)
  | .record entries => .mapping (Dict.ofEntries (Datum.recordValues entries))
  | .table entries => .mapping (Dict.ofEntries (Datum.tableValues entries))

/-- The document values of items. -/
def Datum.itemValues : List Datum → List Value
  | [] => []
  | d :: rest => d.toValue :: Datum.itemValues rest

/-- The document values of entries with text keys. -/
def Datum.recordValues : List (String × Datum) → List (String × Value)
  | [] => []
  | (key, d) :: rest => (key, d.toValue) :: Datum.recordValues rest

/-- The document values of entries with other keys. -/
def Datum.tableValues : List (Scalar × Datum) → List (String × Value)
  | [] => []
  | (key, d) :: rest => (key.keyText, d.toValue) :: Datum.tableValues rest

end

end Yaml

namespace Value

/-- Why a text is no document. -/
inductive Malformed where
  /-- The text is no YAML. -/
  | notYaml (problem : String)
  /-- The text holds something else than a mapping. -/
  | notMapping
deriving DecidableEq, Repr

/-- What is reported of a text from a location that is no document. -/
def Malformed.toFault (location : String) : Malformed → Fault
  | .notYaml problem =>
      .caused { code := .parse, message := "parse spec: yaml: " ++ problem, location }
        (.plain ("yaml: " ++ problem))
  | .notMapping =>
      .report { code := .parse, message := "parse spec: document root is not a mapping", location }

/-- The document that a text holds, which is a mapping. -/
def ofText (text : String) : Except Malformed Value :=
  match Yaml.parse text with
  | .error problem => .error (.notYaml problem)
  | .ok d =>
      match d.toValue with
      | .mapping entries => .ok (.mapping entries)
      | _ => .error .notMapping

end Value

end TypedClient
