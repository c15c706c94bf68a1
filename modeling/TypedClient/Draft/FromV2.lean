import TypedClient.Description.V2
import TypedClient.Document.Normal
import TypedClient.Draft.Failure
import TypedClient.Draft.Services
import TypedClient.Model.OfSchema
import TypedClient.Operation.MediaType
import TypedClient.Operation.Parameters
import TypedClient.Operation.Status

/-!
# Drafts from version 2

The operations of a version 2 description. Form parameters are put together into one body.
-/

namespace TypedClient.V2

namespace Parameter

/-- The schema that the type of a parameter makes up. -/
def typeSchema (p : Parameter) : Schema :=
  let untyped := p.type = "" && p.items.isMissing && p.enum.isEmpty
  let facts : SchemaFacts :=
    { type := if untyped then "string" else p.type, format := p.format, enum := p.enum
      default := p.default }
  .ofParts facts { items := p.items }

/-- The model of a parameter that is not a body. That of its type has no description. -/
def valueModel (doc : Value) (pointer : String) (p : Parameter) : Except DraftFailure Model :=
  if p.schema.isMissing then do
    let model ← (Model.ofSchema doc pointer p.typeSchema).present pointer
    return model.modify (fun t => { t with description := "" })
  else .ok (Model.ofSchema doc (pointer ++ "/schema") p.schema)

/-- What a parameter is for an operation: nothing, a parameter, or a part of the form. -/
inductive Role where
  | ignored
  | plain (p : TypedClient.Parameter)
  | form (p : TypedClient.Parameter)

/-- The role of a parameter that travels outside of the body. -/
def valueRole (doc : Value) (pointer : String) (start : TypedClient.Parameter) (p : Parameter) :
    Except DraftFailure Role := do
  let model ← p.valueModel doc pointer
  let q ← start.withModel pointer model
  return .plain q

/-- The role of a parameter that stands at a pointer. -/
def role (doc : Value) (consumes : List String) (pointer : String) (p : Parameter) :
    Except DraftFailure Role :=
  let start : TypedClient.Parameter :=
    { name := p.name, required := p.required, description := Text.trim p.description }
  match Text.lower p.location with
  | "body" => do
      let media := MediaType.preferred consumes
      let name := Model.extensionText doc pointer "x-body-name"
      let body := { start with
        name := if name = "" then p.name else name
        location := .body
        mediaType := if media = "" then MediaType.json else media }
      let q ← body.withModel pointer (Model.ofSchema doc (pointer ++ "/schema") p.schema)
      return .plain q
  | "formdata" => do
      let model ← p.valueModel doc pointer
      return .form { start with location := .body, model }
  | "path" => p.valueRole doc pointer { start with location := .path }
  | "query" => p.valueRole doc pointer { start with location := .query }
  | "header" => p.valueRole doc pointer { start with location := .header }
  | _ => .ok .ignored

/-- A parameter that is read where it is described, with its pointer. -/
def settle (doc : Value) (pointer : String) (p : Parameter) :
    Except DraftFailure (Parameter × String) :=
  if p.ref = "" then .ok (p, pointer)
  else doc.readTarget .parameter2 Parameter.ofEntries pointer p.ref

/-- The roles of listed parameters, the first of which is the `i`-th below a pointer. -/
def roles (doc : Value) (consumes : List String) (pointer : String) (i : Nat) :
    List (Option Parameter) → Except DraftFailure (List Role)
  | [] => .ok []
  | none :: rest => roles doc consumes pointer (i + 1) rest
  | some p :: rest => do
      let (p, place) ← p.settle doc (pointer ++ "/" ++ toString i)
      let first ← p.role doc consumes place
      let rest ← roles doc consumes pointer (i + 1) rest
      return first :: rest

end Parameter

/-- The plain parameters among roles. -/
def plainOf (roles : List Parameter.Role) : List TypedClient.Parameter :=
  roles.filterMap (fun | .plain p => some p | _ => none)

/-- The parts of the form among roles. -/
def formOf (roles : List Parameter.Role) : List TypedClient.Parameter :=
  roles.filterMap (fun | .form p => some p | _ => none)

/-- Whether a model stands for a file. -/
def isFile (m : Model) : Bool :=
  m.kind = .generic && m.traits.type = "file"

/-- The property that a part of a form is. The model takes the description of the part. -/
def formProperty (pointer : String) (p : TypedClient.Parameter) :
    Except DraftFailure (Property Model) := do
  let model ← p.model.present pointer
  return {
    name := p.name
    required := p.required
    model := model.modify (fun t => { t with description := p.description }) }

/-- The body that the parts of a form make up. -/
def formBody (consumes : List String) (pointer : String) (parts : List TypedClient.Parameter) :
    Except DraftFailure TypedClient.Parameter := do
  let properties ← parts.mapM (formProperty pointer)
  let multipart := parts.any (fun p => isFile p.model) ||
    consumes.any (fun c => MediaType.base c = MediaType.multipart)
  return {
    name := "formData"
    location := .body
    required := parts.any (·.required)
    mediaType := if multipart then MediaType.multipart else MediaType.form
    model := .node
      { kind := .interface, type := "object", pointer := pointer ++ "/parameters/formData" }
      (properties.mergeSort (fun a b => Text.le a.name b.name)) .absent [] }

/-- The parameters of an operation. -/
def parametersFrom (doc : Value) (consumes : List String) (itemPointer pointer : String)
    (shared own : List (Option Parameter)) : Except DraftFailure (List TypedClient.Parameter) := do
  let shared ← Parameter.roles doc consumes (itemPointer ++ "/parameters") 0 shared
  let own ← Parameter.roles doc consumes (pointer ++ "/parameters") 0 own
  let plain := TypedClient.Parameter.merge (plainOf shared) (plainOf own)
  match TypedClient.Parameter.merge (formOf shared) (formOf own) with
  | [] => return plain
  | parts => do
      let body ← formBody consumes pointer parts
      return TypedClient.Parameter.merge plain [body]

/-- A response under a status that stands at a pointer. -/
def Response.declared (doc : Value) (pointer status : String) :
    Option Response → Except DraftFailure TypedClient.Response
  | none => .ok { status }
  | some r => do
      let (r, pointer) ← if r.ref = "" then pure (r, pointer)
        else doc.readTarget .response2 Response.ofEntries pointer r.ref
      let description := Text.trim r.description
      if r.schema.isMissing then return { status, description }
      else return { status, description, mediaType := MediaType.json
                    model := Model.ofSchema doc (pointer ++ "/schema") r.schema }

/-- The responses of an operation. -/
def responsesFrom (doc : Value) (produces : List String) (pointer : String)
    (responses : Dict (Option Response)) : Except DraftFailure (List TypedClient.Response) := do
  let declared ← (Dict.withoutExtensions responses).mapM (fun (status, r) =>
    Response.declared doc (pointer ++ "/responses/" ++ Pointer.escape status) status r)
  if produces.isEmpty then return declared
  else
    let mediaType := MediaType.preferred produces
    return declared.map (fun r => if r.model.isAbsent then r else { r with mediaType })

/-- An operation, with its models still inside it. -/
def Operation.drafted (doc : Value) (t : Document) (path : String) (item : PathItem)
    (itemPointer : String) (method : Method) (o : Operation) :
    Except DraftFailure TypedClient.Operation := do
  let pointer := itemPointer ++ "/" ++ method.label
  let consumes := if o.consumes.isEmpty then t.consumes else o.consumes
  let produces := if o.produces.isEmpty then t.produces else o.produces
  let parameters ← parametersFrom doc consumes itemPointer pointer item.parameters o.parameters
  let responses ← responsesFrom doc produces pointer o.responses
  return {
    id := Text.trim o.id
    method
    path
    summary := Text.trim o.summary
    description := Text.trim o.description
    deprecated := o.deprecated
    tag := o.tags.headD ""
    parameters
    results := TypedClient.Response.results responses }

/-- The operations of one path that a filter allows. -/
def PathItem.drafted (doc : Value) (filter : TagFilter) (t : Document) (path : String)
    (item : PathItem) : Except DraftFailure (List TypedClient.Operation) := do
  let pointer := Pointer.join ["paths", path]
  let (item, pointer) ← if item.ref = "" then pure (item, pointer)
    else doc.readTarget .pathItem2 PathItem.ofEntries pointer item.ref
  (item.operations.filter (fun (_, o) => filter.allows o.tags)).mapM (fun (method, o) =>
    o.drafted doc t path item pointer method)

/-- The operations of a description that a filter allows. -/
def Document.operations (doc : Value) (filter : TagFilter) (t : Document) :
    Except DraftFailure (List TypedClient.Operation) := do
  let byPath ← (Dict.withoutExtensions t.paths).mapM (fun (path, item) => match item with
    | none => pure []
    | some item => item.drafted doc filter t path)
  return byPath.flatten

/-- The address of the server: the first scheme, the host and the base path, or the base path
alone when there is no host. -/
def Document.server (t : Document) : String :=
  let basePath := Text.trim t.basePath
  let host := Text.trim t.host
  if host = "" then Text.dropEnd "/" basePath
  else
    let scheme := t.schemes.headD ""
    Text.dropEnd "/" ((if scheme = "" then "http" else scheme) ++ "://" ++ host ++ basePath)

end TypedClient.V2
