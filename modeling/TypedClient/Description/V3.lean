import TypedClient.Description.Schema
import TypedClient.Operation

/-!
# Descriptions of version 3

The parts of a version 3 description that a client is made from. A null in a list or under a key
is kept as `none`.
-/

namespace TypedClient.V3

/-- Something that is described in place or elsewhere. -/
inductive OrReference (α : Type) where
  /-- Described at a target. -/
  | reference (target : String)
  /-- Described in place. -/
  | inline (it : α)

/-- Reads something that may be a reference. -/
def OrReference.ofEntries {α : Type} (f : Dict Value → α) (es : Dict Value) : OrReference α :=
  match Field.target? es with
  | some target => .reference target
  | none => .inline (f es)

/-- Reads a value that may be null or a reference. -/
def OrReference.read {α : Type} (f : Dict Value → α) : Value → Option (OrReference α) :=
  Field.optional (OrReference.ofEntries f)

/-- Reads a field that may be null or a reference. Of several matching keys a later one replaces an
earlier one, but a reference stays unless another reference or null replaces it. -/
def OrReference.ofField {α : Type} (f : Dict Value → α) (name : String) (es : Dict Value) :
    Option (OrReference α) :=
  (Field.all name es).foldl (fun first v => match first, OrReference.read f v with
    | some (.reference t), some (.inline _) => some (.reference t)
    | _, second => second) none

/-- The schemas of a body by media type; a media type may be null. -/
abbrev Content := Dict (Option Schema)

namespace Content

/-- Reads the content of a parameter, a body or a response. -/
def ofField (es : Dict Value) : Content :=
  (Field.dict "content" es).mapValues (Field.optional (Schema.ofField "schema"))

/-- The media types that are not null. -/
def types (c : Content) : List String :=
  (c.filter (fun e => e.2.isSome)).map Prod.fst

end Content

/-- A parameter of a request. -/
structure Parameter where
  /-- The name on the wire. -/
  name : String
  /-- The word for where it travels. -/
  location : String
  /-- What it is for. -/
  description : String
  /-- Whether every request gives it. -/
  required : Bool
  /-- Whether use of it is discouraged. -/
  deprecated : Bool
  /-- The schema of its values. -/
  schema : Schema
  /-- The schemas of its values by media type. -/
  content : Content

/-- The body of a request. -/
structure RequestBody where
  /-- What it is for. -/
  description : String
  /-- Whether every request has it. -/
  required : Bool
  /-- Its schemas by media type. -/
  content : Content

/-- A response to a request. -/
structure Response where
  /-- What it means. -/
  description : String
  /-- The schemas of its body by media type. -/
  content : Content

/-- One call. -/
structure Operation where
  /-- The identifier. -/
  id : String
  /-- One line on what it does. -/
  summary : String
  /-- What it does. -/
  description : String
  /-- Whether use of it is discouraged. -/
  deprecated : Bool
  /-- The tags. -/
  tags : List String
  /-- The parameters. -/
  parameters : List (Option (OrReference Parameter))
  /-- The body. -/
  requestBody : Option (OrReference RequestBody)
  /-- The responses by status. -/
  responses : Dict (Option (OrReference Response))

/-- The calls of one path. -/
structure PathItem where
  /-- Where the path is described instead. -/
  ref : String
  /-- The calls, in the order of the methods. -/
  operations : List (Method × Operation)
  /-- The parameters of all calls. -/
  parameters : List (Option (OrReference Parameter))

/-- A server of the interface. -/
structure Server where
  /-- The address, with variables between braces. -/
  url : String
  /-- The default values of the variables that are not null. -/
  defaults : List (String × String)

/-- A whole description. -/
structure Document where
  /-- The servers. -/
  servers : List (Option Server)
  /-- The named schemas. -/
  schemas : Dict Schema
  /-- The paths. -/
  paths : Dict (Option PathItem)

/-- Reads a parameter. -/
def Parameter.ofEntries (es : Dict Value) : Parameter where
  name := Field.text "name" es
  location := Field.text "in" es
  description := Field.text "description" es
  required := Field.flag "required" es
  deprecated := Field.flag "deprecated" es
  schema := Schema.ofField "schema" es
  content := Content.ofField es

/-- Reads the body of a request. -/
def RequestBody.ofEntries (es : Dict Value) : RequestBody where
  description := Field.text "description" es
  required := Field.flag "required" es
  content := Content.ofField es

/-- Reads a response. -/
def Response.ofEntries (es : Dict Value) : Response where
  description := Field.text "description" es
  content := Content.ofField es

/-- Reads the parameters of a field; a later list replaces an earlier one. -/
def parametersOf (es : Dict Value) : List (Option (OrReference Parameter)) :=
  (Field.list "parameters" es).map (OrReference.read Parameter.ofEntries)

/-- Reads a call. -/
def Operation.ofEntries (es : Dict Value) : Operation where
  id := Field.text "operationId" es
  summary := Field.text "summary" es
  description := Field.text "description" es
  deprecated := Field.flag "deprecated" es
  tags := Field.texts "tags" es
  parameters := parametersOf es
  requestBody := OrReference.ofField RequestBody.ofEntries "requestBody" es
  responses :=
    (Field.dict "responses" es).mapValues (OrReference.read Response.ofEntries)

/-- Reads the calls of a path. -/
def PathItem.ofEntries (es : Dict Value) : PathItem where
  ref := Field.text "$ref" es
  operations := Method.known.filterMap (fun m =>
    (Field.optional Operation.ofEntries (Field.value m.label es)).map (fun op => (m, op)))
  parameters := parametersOf es

/-- Reads a server. -/
def Server.ofEntries (es : Dict Value) : Server where
  url := Field.text "url" es
  defaults := (Field.dict "variables" es).filterMap (fun (name, v) =>
    (Field.optional (Field.text "default") v).map (fun value => (name, value)))

/-- Reads a whole description. -/
def Document.ofEntries (es : Dict Value) : Document where
  servers := (Field.list "servers" es).map (Field.optional Server.ofEntries)
  schemas :=
    (Field.dict "schemas" (Field.value "components" es).entries).mapValues Schema.read
  paths := (Field.dict "paths" es).mapValues (Field.optional PathItem.ofEntries)

end TypedClient.V3
