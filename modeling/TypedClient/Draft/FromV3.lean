import TypedClient.Description.V3
import TypedClient.Document.Normal
import TypedClient.Draft.Failure
import TypedClient.Draft.Services
import TypedClient.Model.OfSchema
import TypedClient.Operation.MediaType
import TypedClient.Operation.Parameters
import TypedClient.Operation.Status

/-!
# Drafts from version 3

The operations of a version 3 description. The body of a request is a parameter like the others.
-/

namespace TypedClient.V3

/-- Something that may be described elsewhere, read there, with its pointer. -/
def OrReference.settle {α : Type} (doc : Value) (kind : ObjectKind) (read : Dict Value → α)
    (pointer : String) : OrReference α → Except DraftFailure (α × String)
  | .inline it => .ok (it, pointer)
  | .reference target => doc.readTarget kind read pointer target

/-- Where the schema of a media type stands below a pointer. -/
def Content.schemaPointer (pointer mediaType : String) : String :=
  pointer ++ "/content/" ++ Pointer.escape mediaType ++ "/schema"

/-- The schema under a media type, which is read without a test for whether it is there. -/
def Content.schemaAt (pointer mediaType : String) (c : Content) : Except DraftFailure Schema :=
  match (Dict.get? c mediaType).bind id with
  | some s => .ok s
  | none => .error (.emptyContent pointer)

/-- The model of the schema under a media type. -/
def Content.model (doc : Value) (pointer mediaType : String) (c : Content) :
    Except DraftFailure Model := do
  let s ← c.schemaAt pointer mediaType
  return Model.ofSchema doc (schemaPointer pointer mediaType) s

namespace Parameter

/-- The model of a parameter that stands at a pointer. -/
def model (doc : Value) (pointer : String) (p : Parameter) : Except DraftFailure Model :=
  if !p.schema.isMissing then .ok (Model.ofSchema doc (pointer ++ "/schema") p.schema)
  else if p.content.isEmpty then .ok (Model.primitive "string" pointer)
  else p.content.model doc pointer (MediaType.preferred p.content.types)

/-- The parameter of an operation, unless its location is not known. The model takes up whether use
of the parameter is discouraged. -/
def drafted (doc : Value) (pointer : String) (p : Parameter) :
    Except DraftFailure (Option TypedClient.Parameter) :=
  match Location.ofLabel (Text.lower p.location) with
  | .body | .other _ => .ok none
  | location => do
      let model ← p.model doc pointer
      let start : TypedClient.Parameter :=
        { name := p.name, location, required := p.required
          description := Text.trim p.description }
      let q ← start.withModel pointer model
      return some { q with
        model := q.model.modify (fun t => { t with deprecated := t.deprecated || p.deprecated }) }

/-- The parameters of a list, the first of which is the `i`-th below a pointer. -/
def draftedAll (doc : Value) (pointer : String) (i : Nat) :
    List (Option (OrReference Parameter)) → Except DraftFailure (List TypedClient.Parameter)
  | [] => .ok []
  | none :: rest => draftedAll doc pointer (i + 1) rest
  | some r :: rest => do
      let (p, place) ← r.settle doc .parameter Parameter.ofEntries (pointer ++ "/" ++ toString i)
      let first ← p.drafted doc place
      return first.toList ++ (← draftedAll doc pointer (i + 1) rest)

end Parameter

/-- The model of the body of a request that stands at a pointer. -/
def RequestBody.model (doc : Value) (pointer : String) (b : RequestBody) :
    Except DraftFailure Model :=
  let mediaType := MediaType.preferred b.content.types
  if mediaType = "" then .ok (Model.primitive "any" pointer)
  else b.content.model doc pointer mediaType

/-- The parameter that the body of a request is. -/
def RequestBody.drafted (doc : Value) (pointer : String) (b : RequestBody) :
    Except DraftFailure TypedClient.Parameter := do
  let name := Model.extensionText doc pointer "x-body-name"
  let model ← b.model doc pointer
  return {
    name := if name = "" then "requestBody" else name
    location := .body
    required := b.required
    description := Text.trim b.description
    mediaType := MediaType.preferred b.content.types
    model }

/-- The model of a response that stands at a pointer, unless its media type has no schema. -/
def Response.model (doc : Value) (pointer : String) (r : Response) : Except DraftFailure Model :=
  let mediaType := MediaType.preferred r.content.types
  if mediaType = "" then .ok .absent
  else do
    let s ← r.content.schemaAt pointer mediaType
    return if s.isMissing then .absent
      else Model.ofSchema doc (Content.schemaPointer pointer mediaType) s

/-- A response under a status that stands at a pointer. -/
def Response.declared (doc : Value) (pointer status : String) :
    Option (OrReference Response) → Except DraftFailure TypedClient.Response
  | none => .ok { status }
  | some r => do
      let (r, pointer) ← r.settle doc .response Response.ofEntries pointer
      let model ← r.model doc pointer
      return {
        status
        description := Text.trim r.description
        mediaType := MediaType.preferred r.content.types
        model }

/-- The parameters of an operation: those of the path, its own, and its body. -/
def Operation.draftedParameters (doc : Value) (pointer : String)
    (shared : List TypedClient.Parameter) (o : Operation) :
    Except DraftFailure (List TypedClient.Parameter) := do
  let own ← Parameter.draftedAll doc (pointer ++ "/parameters") 0 o.parameters
  let parameters := TypedClient.Parameter.merge shared own
  match o.requestBody with
  | none => return parameters
  | some b => do
      let (b, place) ← b.settle doc .requestBody RequestBody.ofEntries (pointer ++ "/requestBody")
      let body ← b.drafted doc place
      return TypedClient.Parameter.merge parameters [body]

/-- An operation, with its models still inside it. -/
def Operation.drafted (doc : Value) (path pointer : String)
    (shared : List TypedClient.Parameter) (method : Method) (o : Operation) :
    Except DraftFailure TypedClient.Operation := do
  let parameters ← o.draftedParameters doc pointer shared
  let responses ← (Dict.withoutExtensions o.responses).mapM (fun (status, r) =>
    Response.declared doc (pointer ++ "/responses/" ++ Pointer.escape status) status r)
  return {
    id := Text.trim o.id
    method
    path
    summary := Text.trim o.summary
    description := Text.trim o.description
    deprecated := o.deprecated
    tag := o.tags.headD ""
    parameters
    results := TypedClient.Response.results responses }

/-- The operations of one path that a filter allows. -/
def PathItem.drafted (doc : Value) (filter : TagFilter) (path : String) (item : PathItem) :
    Except DraftFailure (List TypedClient.Operation) := do
  let pointer := Pointer.join ["paths", path]
  let (item, pointer) ← if item.ref = "" then pure (item, pointer)
    else doc.readTarget .pathItem PathItem.ofEntries pointer item.ref
  let shared ← Parameter.draftedAll doc (pointer ++ "/parameters") 0 item.parameters
  (item.operations.filter (fun (_, o) => filter.allows o.tags)).mapM (fun (method, o) =>
    o.drafted doc path (pointer ++ "/" ++ method.label) shared method)

/-- The operations of a description that a filter allows. -/
def Document.operations (doc : Value) (filter : TagFilter) (t : Document) :
    Except DraftFailure (List TypedClient.Operation) := do
  let byPath ← (Dict.withoutExtensions t.paths).mapM (fun (path, item) => match item with
    | none => pure []
    | some item => item.drafted doc filter path)
  return byPath.flatten

/-- A text with a variable between braces replaced by its value. -/
def substitute (url : String) (v : String × String) : String :=
  Text.replace ("\x7b" ++ v.1 ++ "\x7d") v.2 url

/-- The address of a server with its variables replaced one after the other. -/
def Server.address (s : Server) : String :=
  Text.dropEnd "/" (s.defaults.foldl substitute s.url)

/-- The address of the first server. -/
def Document.server (t : Document) : String :=
  match t.servers with
  | some s :: _ => s.address
  | _ => ""

end TypedClient.V3
