import TypedClient.Document.Pointer
import TypedClient.Draft
import TypedClient.Fault
import TypedClient.Naming.EnumKey
import TypedClient.Naming.Identifier
import TypedClient.Naming.Namespace

/-!
# Named drafts

In a named draft every model, service, operation, parameter, property and enum member has a name
that the generated code can use, and every reference targets the name of a model.
-/

namespace TypedClient

/-- The names that the core files of the generated code export. -/
def runtimeNames : List String :=
  ["ApiError", "ApiRequestOptions", "ApiResult", "CancelablePromise", "CancelError", "OnCancel",
   "OpenAPI", "OpenAPIConfig"]

namespace Naming

/-- `name`, or `fallback` when it is empty. -/
def orElse (name fallback : String) : String :=
  if name = "" then fallback else name

/-- The name that a model or a service asks for. -/
def typeBase (sourceName fallback : String) : String :=
  orElse (escapeReserved (pascal sourceName)) fallback

/-- The name that an enum member asks for: its own when it is an identifier. -/
def memberBase (e : EnumMember) : String :=
  if e.name = "" then enumKey e.value
  else if isIdentifier e.name then e.name
  else enumKeyOfText e.name

/-- The members of an enum with their names. -/
def nameMembers (members : List EnumMember) : List EnumMember :=
  let names := (Namespace.reserveAll {} (members.map memberBase)).1
  List.zipWith (fun e name => { e with name }) members names

/-- The parameters of an operation with their names. -/
def nameParameters (parameters : List Parameter) : List Parameter :=
  let bases := parameters.map (fun p => orElse (escapeReserved (camel p.name)) "param")
  List.zipWith (fun p exportName => { p with exportName }) parameters
    (Namespace.reserveAll {} bases).1

/-- The name that an operation asks for. -/
def operationBase (op : Operation) : String :=
  orElse (escapeReserved (operationName op.id op.method.label op.path)) "operation"

/-- The operations of a service with their names. -/
def namedOperations (operations : List Operation) : List Operation :=
  List.zipWith (fun op name => { op with name, parameters := nameParameters op.parameters })
    operations (Namespace.reserveAll {} (operations.map operationBase)).1

/-- Names the services in turn. The class of a service carries its name and `Service`, which no
model may have. -/
def nameServices (models services : Namespace) : List Service → List Service
  | [] => []
  | s :: rest =>
      let base := typeBase s.tag "Default"
      let free := freeName (fun n => services.taken n || models.taken (n ++ "Service"))
        (services.names.length + models.names.length) base
      let (name, services) := services.reserve free
      { s with name, operations := namedOperations s.operations } ::
        nameServices models services rest

end Naming

/-- The exported names of models by their pointers. -/
abbrev NameTable := List (String × String)

namespace NameTable

/-- The name of the model at a pointer; of several the last counts. -/
def get? (t : NameTable) (pointer : String) : Option String :=
  t.reverse.lookup pointer

end NameTable

mutual

/-- A schema in which references to models give their names. -/
def Value.nameTargets (table : NameTable) : Value → Value
  | .list items => .list (nameTargetsOfItems table items)
  | .mapping entries => .mapping (nameTargetsOfEntries table entries)
  | .null => .null
  | .bool b => .bool b
  | .int n => .int n
  | .int64 n => .int64 n
  | .uint n => .uint n
  | .float x => .float x
  | .text s => .text s

/-- The items of a list with their references named. -/
def Value.nameTargetsOfItems (table : NameTable) : List Value → List Value
  | [] => []
  | v :: rest => v.nameTargets table :: nameTargetsOfItems table rest

/-- The entries of a mapping with their references named. What stands under `$ref` is a reference
or is left alone. -/
def Value.nameTargetsOfEntries (table : NameTable) :
    List (String × Value) → List (String × Value)
  | [] => []
  | (key, v) :: rest =>
      let named := if key = "$ref" then
          match v with
          | .text s => (table.get? (Pointer.canonical s)).elim v .text
          | _ => v
        else v.nameTargets table
      (key, named) :: nameTargetsOfEntries table rest

end

namespace Draft

/-- The names of the models, in order, and the namespace that they fill. -/
def modelNames (d : Draft) : List String × Naming.Namespace :=
  Naming.Namespace.reserveAll ⟨runtimeNames⟩
    (d.models.map (fun m => Naming.typeBase m.traits.sourceName "Model"))

/-- The names of the models by pointer. -/
def nameTable (d : Draft) : NameTable :=
  List.zip (d.models.map Model.pointer) d.modelNames.1

/-- A node with its target and its enum members named. -/
def nameNode (table : NameTable) (t : Traits) : Traits :=
  match t.kind with
  | .reference => { t with target := (table.get? t.target).getD t.target }
  | .enum => { t with enum := Naming.nameMembers t.enum }
  | _ => t

/-- The key of a property in the generated code; only an interface has any. -/
def nameKey (t : Traits) (name exportName : String) : String :=
  if t.kind = .interface then Naming.propertyKey name else exportName

/-- A model with everything below it named. -/
def nameModel (table : NameTable) (m : Model) : Model :=
  m.mapNodes (nameNode table) nameKey

/-- The named draft. It fails at the first reference that targets no model. -/
def named (d : Draft) : Except Unresolved Draft :=
  let (names, models) := d.modelNames
  let table := d.nameTable
  match d.referenceNodes.find? (fun t => (table.get? t.target).isNone) with
  | some t => .error ⟨t.target, t.pointer⟩
  | none =>
      let renamed := d.mapModels (nameModel table)
      .ok { renamed with
        models := List.zipWith (fun m name => m.modify (fun t => { t with name }))
          renamed.models names
        services := Naming.nameServices models {} renamed.services
        schemas := d.schemas.map (fun s =>
          { s with
            name := (table.get? s.pointer).getD ""
            raw := s.raw.nameTargets table }) }

end Draft

end TypedClient
