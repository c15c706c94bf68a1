import TypedClient.Description.Schema
import TypedClient.Operation

/-!
# Descriptions of version 2

The parts of a version 2 description that a client is made from. A null in a list or under a key
is kept as `none`.
-/

namespace TypedClient.V2

/-- A parameter of a request. -/
structure Parameter where
  /-- Where the parameter is described instead. -/
  ref : String
  /-- The name on the wire. -/
  name : String
  /-- The word for where it travels. -/
  location : String
  /-- What it is for. -/
  description : String
  /-- Whether every request gives it. -/
  required : Bool
  /-- The type of a value. -/
  type : String
  /-- A refinement of the type. -/
  format : String
  /-- The schema of a body. -/
  schema : Schema
  /-- The schema of the items of a list. -/
  items : Schema
  /-- The values of an enum. -/
  enum : List Value
  /-- The value of a request that does not give it. -/
  default : Value

/-- A response to a request. -/
structure Response where
  /-- Where the response is described instead. -/
  ref : String
  /-- What it means. -/
  description : String
  /-- The schema of the body. -/
  schema : Schema

/-- One call. -/
structure Operation where
  /-- The identifier. -/
  id : String
  /-- One line on what it does. -/
  summary : String
  /-- What it does. -/
  description : String
  /-- Whether use of it is discouraged. -/
  deprecated : Bool
  /-- The tags. -/
  tags : List String
  /-- The media types of its bodies. -/
  consumes : List String
  /-- The media types of its responses. -/
  produces : List String
  /-- The parameters. -/
  parameters : List (Option Parameter)
  /-- The responses by status. -/
  responses : Dict (Option Response)

/-- The calls of one path. -/
structure PathItem where
  /-- Where the path is described instead. -/
  ref : String
  /-- The calls, in the order of the methods. -/
  operations : List (Method × Operation)
  /-- The parameters of all calls. -/
  parameters : List (Option Parameter)

/-- A whole description. -/
structure Document where
  /-- The host that serves the interface. -/
  host : String
  /-- The path below which the interface is served. -/
  basePath : String
  /-- How the host is reached. -/
  schemes : List String
  /-- The media types of bodies where a call names none. -/
  consumes : List String
  /-- The media types of responses where a call names none. -/
  produces : List String
  /-- The named schemas. -/
  definitions : Dict Schema
  /-- The paths. -/
  paths : Dict (Option PathItem)

/-- Reads a parameter. -/
def Parameter.ofEntries (es : Dict Value) : Parameter where
  ref := Field.text "$ref" es
  name := Field.text "name" es
  location := Field.text "in" es
  description := Field.text "description" es
  required := Field.flag "required" es
  type := Field.text "type" es
  format := Field.text "format" es
  schema := Schema.ofField "schema" es
  items := Schema.ofField "items" es
  enum := (Field.list "enum" es).map Value.doubled
  default := (Field.value "default" es).doubled

/-- Reads a response. -/
def Response.ofEntries (es : Dict Value) : Response where
  ref := Field.text "$ref" es
  description := Field.text "description" es
  schema := Schema.ofField "schema" es

/-- Reads the parameters of a field; a later list replaces an earlier one. -/
def parametersOf (es : Dict Value) : List (Option Parameter) :=
  (Field.list "parameters" es).map (Field.optional Parameter.ofEntries)

/-- Reads a call. -/
def Operation.ofEntries (es : Dict Value) : Operation where
  id := Field.text "operationId" es
  summary := Field.text "summary" es
  description := Field.text "description" es
  deprecated := Field.flag "deprecated" es
  tags := Field.texts "tags" es
  consumes := Field.texts "consumes" es
  produces := Field.texts "produces" es
  parameters := parametersOf es
  responses := (Field.dict "responses" es).mapValues (Field.optional Response.ofEntries)

/-- The methods of version 2, in order. -/
def methods : List Method :=
  [.get, .put, .post, .delete, .options, .head, .patch]

/-- Reads the calls of a path. -/
def PathItem.ofEntries (es : Dict Value) : PathItem where
  ref := Field.text "$ref" es
  operations := methods.filterMap (fun m =>
    (Field.optional Operation.ofEntries (Field.value m.label es)).map (fun op => (m, op)))
  parameters := parametersOf es

/-- Reads a whole description. -/
def Document.ofEntries (es : Dict Value) : Document where
  host := Field.text "host" es
  basePath := Field.text "basePath" es
  schemes := Field.texts "schemes" es
  consumes := Field.texts "consumes" es
  produces := Field.texts "produces" es
  definitions := (Field.dict "definitions" es).mapValues Schema.read
  paths := (Field.dict "paths" es).mapValues (Field.optional PathItem.ofEntries)

end TypedClient.V2
