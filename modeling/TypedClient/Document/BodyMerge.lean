import TypedClient.Document.Value
import TypedClient.Text.Basic

/-!
# One body per operation

A version 2 operation may have one body parameter, and not together with form parameters. Where a
document breaks this, several body parameters become one whose schema is an object with a
property for each, and a body beside form parameters becomes a form parameter itself.
-/

namespace TypedClient.BodyMerge

/-- Whether a key of a path item names an operation, in any letter case. -/
def namesOperation (key : String) : Bool :=
  ["get", "post", "put", "delete", "patch", "options", "head"].contains (Text.lower key)

/-- Whether a parameter is sent at the given place, in any letter case. -/
def isAt (place : String) (parameter : Value) : Bool :=
  Text.sameLetters (parameter.field "in").textOrEmpty place

/-- The parameters of an operation that are mappings. -/
def parameters (operation : Dict Value) : List Value :=
  (((Dict.get? operation "parameters").bind Value.list?).getD []).filter
    (fun p => p.mapping?.isSome)

/-- The number of body parameters. -/
def bodyCount (parameters : List Value) : Nat :=
  parameters.countP (isAt "body")

/-- Whether there is a form parameter. -/
def hasForm (parameters : List Value) : Bool :=
  parameters.any (isAt "formData")

/-- Whether an operation has several bodies, or a body beside form parameters. -/
def isOffending (operation : Dict Value) : Bool :=
  let ps := parameters operation
  bodyCount ps > 1 || (bodyCount ps > 0 && hasForm ps)

/-- The name of a parameter, or a stand-in. -/
def nameOf (parameter : Value) : String :=
  let name := (parameter.field "name").textOrEmpty
  if name = "" then "field" else name

/-- An optional entry of a mapping that is being put together. -/
def entry (key : String) : Option Value → List (String × Value)
  | some v => [(key, v)]
  | none => []

/-- A text that is not empty. -/
def nonEmpty? (v : Value) : Option Value :=
  if v.textOrEmpty = "" then none else some (.text v.textOrEmpty)

/-- A value that is a mapping. -/
def mapping? (v : Value) : Option Value :=
  v.mapping?.map .mapping

/-- The schema of a body parameter: its own, or one made of its type, or a plain text. -/
def schemaOf (parameter : Value) : Value :=
  match mapping? (parameter.field "schema") with
  | some schema => schema
  | none =>
      match nonEmpty? (parameter.field "type") with
      | none => .mapping [("type", .text "string")]
      | some type => .mapping (Dict.ofEntries (
          ("type", type) :: entry "items" (mapping? (parameter.field "items")) ++
            entry "format" (nonEmpty? (parameter.field "format"))))

/-- The form parameter that stands for a body parameter. A referenced object has no form of its
own and is sent as text. -/
def formOf (parameter : Value) : Value :=
  let schema := parameter.field "schema"
  let declared := (schema.field "type").textOrEmpty
  let fromSchema : String :=
    if declared = "" ∧ !(schema.field "$ref").isNull then "string" else declared
  let source := if fromSchema = "" then parameter else schema
  let type := if fromSchema = "" then (parameter.field "type").textOrEmpty else fromSchema
  let items := match mapping? (source.field "items") with
    | some items => some items
    | none => mapping? (schema.field "items")
  .mapping (Dict.ofEntries (
    [("in", .text "formData"), ("name", .text (nameOf parameter)),
     ("type", .text (if type = "" then "string" else type))] ++
    entry "description" (nonEmpty? (parameter.field "description")) ++
    entry "required" ((parameter.field "required").bool?.map .bool) ++
    entry "items" items ++
    entry "format" (nonEmpty? (source.field "format"))))

/-- An operation whose bodies are sent as form parameters. -/
def asForm (operation : Dict Value) : Dict Value :=
  let sent := (parameters operation).map (fun p => if isAt "body" p then formOf p else p)
  let consumes := ((Dict.get? operation "consumes").bind Value.list?).getD []
  let operation := Dict.insert "parameters" (.list sent) operation
  if consumes.any (fun c => c.text? == some "multipart/form-data") then operation
  else Dict.insert "consumes" (.list (consumes ++ [.text "multipart/form-data"])) operation

/-- The body parameter that several bodies become. -/
def mergedBody (bodies : List Value) : Value :=
  let properties := Dict.ofEntries (bodies.map (fun p => (nameOf p, schemaOf p)))
  let required := (bodies.filter (fun p => (p.field "required").bool? == some true)).map
    (fun p => Value.text (nameOf p))
  let list : Option Value := if required.isEmpty then none else some (.list required)
  let schema := .mapping (Dict.ofEntries (
    [("type", .text "object"), ("properties", .mapping properties)] ++ entry "required" list))
  .mapping (Dict.ofEntries (
    [("in", .text "body"), ("name", .text "body"), ("schema", schema)] ++
      entry "required" (list.map (fun _ => .bool true))))

/-- An operation whose bodies are put together in front of its other parameters. -/
def asOneBody (operation : Dict Value) : Dict Value :=
  let (bodies, others) := (parameters operation).partition (isAt "body")
  Dict.insert "parameters" (.list (mergedBody bodies :: others)) operation

/-- An operation with at most one way to send a body. -/
def mendOperation (operation : Dict Value) : Dict Value :=
  if isOffending operation then
    if hasForm (parameters operation) then asForm operation else asOneBody operation
  else operation

/-- A path item with every operation mended. -/
def mendPathItem (item : Value) : Value :=
  match item with
  | .mapping entries => .mapping (entries.map (fun (key, v) =>
      match v with
      | .mapping operation =>
          if namesOperation key then (key, .mapping (mendOperation operation)) else (key, v)
      | _ => (key, v)))
  | _ => item

/-- The operations below a path item. -/
def operationsOf (item : Value) : List (Dict Value) :=
  (item.entries.filter (fun e => namesOperation e.1)).filterMap (fun e => e.2.mapping?)

/-- Whether a document has an operation that needs mending. -/
def isNeeded (doc : Value) : Bool :=
  (doc.field "paths").entries.any (fun e => (operationsOf e.2).any isOffending)

/-- A document with every operation mended. -/
def mend (doc : Value) : Value :=
  if isNeeded doc then
    .mapping (Dict.insert "paths"
      (.mapping (Dict.mapValues mendPathItem (doc.field "paths").entries)) doc.entries)
  else doc

end TypedClient.BodyMerge
