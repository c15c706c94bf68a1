import TypedClient.Description.Field
import TypedClient.Number.Shortest

/-!
# What the parts of a description look like

A description is read only when every part of it has the right form: a text where a text is
expected, an object with fields of the right form where an object is expected. Keys that an object
does not know may hold anything, and null is right everywhere. A part that may be a reference is
not looked at further when it is one.
-/

namespace TypedClient

/-- The kinds of objects in a description. Those that look different in version 2 carry a 2. -/
inductive ObjectKind where
  | document2 | pathItem2 | operation2 | parameter2 | response2 | securityScheme2
  | document | components | pathItem | operation | parameter | requestBody | response
  | mediaType | encoding | schema | discriminator | xml | info | contact | license | docs | tag
  | server | serverVariable | sample | link | securityScheme | flows | flow
deriving DecidableEq, Repr

/-- What a part of a description looks like. -/
inductive Form where
  /-- A text. -/
  | text
  /-- A truth value. -/
  | flag
  /-- A number. -/
  | number
  /-- A whole number of 64 bits without a sign. -/
  | count
  /-- Anything. -/
  | any
  /-- A list of parts of one form. -/
  | list (item : Form)
  /-- Parts of one form under any keys. -/
  | dict (item : Form)
  /-- An object with fields. -/
  | object (kind : ObjectKind)
  /-- A reference, or an object with fields. -/
  | orReference (kind : ObjectKind)
  /-- A reference, or path items under any keys. -/
  | callback
  /-- A truth value or a schema. -/
  | additional
deriving DecidableEq, Repr

namespace ObjectKind

open Form

/-- Fields of the same form. -/
def each (form : Form) (names : List String) : List (String × Form) :=
  names.map (fun n => (n, form))

/-- The requirements of a security scheme by its name. -/
def security : Form := list (dict (list text))

/-- The fields of each kind of object. -/
def fields : ObjectKind → List (String × Form)
  | document2 =>
      each text ["swagger", "host", "basePath"] ++
      each (list text) ["schemes", "consumes", "produces"] ++
      [("info", object info), ("externalDocs", object docs),
       ("paths", dict (object pathItem2)), ("definitions", dict (orReference schema)),
       ("parameters", dict (object parameter2)), ("responses", dict (object response2)),
       ("securityDefinitions", dict (object securityScheme2)), ("security", security),
       ("tags", list (object tag))]
  | pathItem2 =>
      each (object operation2) ["get", "put", "post", "delete", "options", "head", "patch"] ++
      [("$ref", text), ("parameters", list (object parameter2))]
  | operation2 =>
      each text ["summary", "description", "operationId"] ++
      each (list text) ["tags", "consumes", "produces", "schemes"] ++
      [("deprecated", flag), ("externalDocs", object docs),
       ("parameters", list (object parameter2)), ("responses", dict (object response2)),
       ("security", security)]
  | parameter2 =>
      each text ["$ref", "in", "name", "description", "collectionFormat", "type", "format",
        "pattern"] ++
      each flag ["allowEmptyValue", "required", "uniqueItems", "exclusiveMinimum",
        "exclusiveMaximum"] ++
      each (orReference schema) ["schema", "items"] ++
      each number ["multipleOf", "minimum", "maximum"] ++
      each count ["maxLength", "maxItems", "minLength", "minItems"] ++
      [("enum", list any), ("default", any)]
  | response2 =>
      each text ["$ref", "description"] ++
      [("schema", orReference schema), ("headers", dict (object parameter2)),
       ("examples", dict any)]
  | securityScheme2 =>
      each text ["$ref", "description", "type", "in", "name", "flow", "authorizationUrl",
        "tokenUrl"] ++
      [("scopes", dict text), ("tags", list (object tag))]
  | document =>
      [("openapi", text), ("info", object info), ("paths", dict (object pathItem)),
       ("components", object components), ("security", security),
       ("servers", list (object server)), ("tags", list (object tag)),
       ("externalDocs", object docs)]
  | components =>
      [("schemas", dict (orReference schema)), ("parameters", dict (orReference parameter)),
       ("headers", dict (orReference parameter)),
       ("requestBodies", dict (orReference requestBody)),
       ("responses", dict (orReference response)),
       ("securitySchemes", dict (orReference securityScheme)),
       ("examples", dict (orReference sample)), ("links", dict (orReference link)),
       ("callbacks", dict callback)]
  | pathItem =>
      each text ["$ref", "summary", "description"] ++
      each (object operation) ["get", "put", "post", "delete", "options", "head", "patch",
        "trace", "connect"] ++
      [("servers", list (object server)), ("parameters", list (orReference parameter))]
  | operation =>
      each text ["summary", "description", "operationId"] ++
      [("tags", list text), ("parameters", list (orReference parameter)),
       ("requestBody", orReference requestBody), ("responses", dict (orReference response)),
       ("callbacks", dict callback), ("deprecated", flag),
       ("security", security), ("servers", list (object server)),
       ("externalDocs", object docs)]
  | parameter =>
      each text ["name", "in", "description", "style"] ++
      each flag ["explode", "allowEmptyValue", "allowReserved", "deprecated", "required"] ++
      [("schema", orReference schema), ("example", any),
       ("examples", dict (orReference sample)), ("content", dict (object mediaType))]
  | requestBody =>
      [("description", text), ("required", flag), ("content", dict (object mediaType))]
  | response =>
      [("description", text), ("headers", dict (orReference parameter)),
       ("content", dict (object mediaType)), ("links", dict (orReference link))]
  | mediaType =>
      [("schema", orReference schema), ("example", any),
       ("examples", dict (orReference sample)), ("encoding", dict (object encoding))]
  | encoding =>
      each text ["contentType", "style"] ++ each flag ["explode", "allowReserved"] ++
      [("headers", dict (orReference parameter))]
  | schema =>
      each (list (orReference schema)) ["oneOf", "anyOf", "allOf"] ++
      each (orReference schema) ["not", "items"] ++
      each text ["type", "title", "format", "description", "pattern"] ++
      each flag ["uniqueItems", "exclusiveMinimum", "exclusiveMaximum", "nullable", "readOnly",
        "writeOnly", "allowEmptyValue", "deprecated"] ++
      each number ["minimum", "maximum", "multipleOf"] ++
      each count ["minLength", "maxLength", "minItems", "maxItems", "minProperties",
        "maxProperties"] ++
      [("enum", list any), ("default", any), ("example", any), ("externalDocs", object docs),
       ("xml", object xml), ("required", list text),
       ("properties", dict (orReference schema)), ("additionalProperties", additional),
       ("discriminator", object discriminator)]
  | discriminator => [("propertyName", text), ("mapping", dict text)]
  | xml => each text ["name", "namespace", "prefix"] ++ each flag ["attribute", "wrapped"]
  | info =>
      each text ["title", "description", "termsOfService", "version"] ++
      [("contact", object contact), ("license", object license)]
  | contact => each text ["name", "url", "email"]
  | license => each text ["name", "url"]
  | docs => each text ["description", "url"]
  | tag => each text ["name", "description"] ++ [("externalDocs", object docs)]
  | server =>
      each text ["url", "description"] ++ [("variables", dict (object serverVariable))]
  | serverVariable => each text ["default", "description"] ++ [("enum", list text)]
  | sample => each text ["summary", "description", "externalValue"] ++ [("value", any)]
  | link =>
      each text ["operationRef", "operationId", "description"] ++
      [("parameters", dict any), ("server", object server), ("requestBody", any)]
  | securityScheme =>
      each text ["type", "description", "name", "in", "scheme", "bearerFormat",
        "openIdConnectUrl"] ++ [("flows", object flows)]
  | flows =>
      each (object flow) ["implicit", "password", "clientCredentials", "authorizationCode"]
  | flow =>
      each text ["authorizationUrl", "tokenUrl", "refreshUrl"] ++ [("scopes", dict text)]

/-- The form of a field, if the object knows it. -/
def field? (kind : ObjectKind) (key : String) : Option Form :=
  (kind.fields.find? (fun f => Field.isFor f.1 key)).map Prod.snd

end ObjectKind

namespace Form

/-- Whether a double is a whole number that a count can be. -/
def isCountable (x : Binary64) : Bool :=
  let d := x.shortest
  x.isFinite && !x.isNegative && 0 ≤ d.exponent && d.exponent < 21 &&
    d.digits * Nat.pow 10 d.exponent.toNat < Word.bound

/-- Whether a whole number can be a count. `rounded` says that it is turned into a double on the
way, which is so below a schema for additional properties. -/
def isCount (rounded : Bool) (n : Int) : Bool :=
  if rounded then isCountable (Binary64.ofInt n) else 0 ≤ n && n < Word.bound

/-- Whether a whole number has the form. -/
def admitsWhole (rounded : Bool) (n : Int) : Form → Bool
  | number | any => true
  | count => isCount rounded n
  | _ => false

mutual

/-- Whether a value has the form. -/
def admits (rounded : Bool) (form : Form) : Value → Bool
  | .null => true
  | .bool _ => match form with
      | flag | any | additional => true
      | _ => false
  | .int n => form.admitsWhole rounded n
  | .int64 n => form.admitsWhole rounded n
  | .uint n => form.admitsWhole rounded n
  | .float x => match form with
      | number | any => true
      | count => isCountable x
      | _ => false
  | .text _ => match form with
      | text | any => true
      | _ => false
  | .list items => match form with
      | any => true
      | list item => admitsItems rounded item items
      | _ => false
  | .mapping entries => match form with
      | any => true
      | dict item => admitsEntries rounded (fun _ => some item) entries
      | object kind => admitsEntries rounded kind.field? entries
      | orReference kind =>
          (Field.target? entries).isSome || admitsEntries rounded kind.field? entries
      | callback =>
          (Field.target? entries).isSome ||
            admitsEntries rounded (fun _ => some (object .pathItem)) entries
      | additional =>
          (Field.target? entries).isSome || admitsEntries true ObjectKind.schema.field? entries
      | _ => false

/-- Whether all items have the form. -/
def admitsItems (rounded : Bool) (form : Form) : List Value → Bool
  | [] => true
  | v :: rest => form.admits rounded v && admitsItems rounded form rest

/-- Whether all entries have the form that their key asks for. -/
def admitsEntries (rounded : Bool) (formOf : String → Option Form) :
    List (String × Value) → Bool
  | [] => true
  | (key, v) :: rest =>
      (match formOf key with
        | some form => form.admits rounded v
        | none => true) && admitsEntries rounded formOf rest

end

end Form

namespace Value

mutual

/-- Whether every number in a value is finite. -/
def isFinite : Value → Bool
  | .float x => x.isFinite
  | .list items => itemsFinite items
  | .mapping entries => entriesFinite entries
  | .null | .bool _ | .int _ | .int64 _ | .uint _ | .text _ => true

/-- Whether every number in a list is finite. -/
def itemsFinite : List Value → Bool
  | [] => true
  | v :: rest => v.isFinite && itemsFinite rest

/-- Whether every number in the entries of a mapping is finite. -/
def entriesFinite : List (String × Value) → Bool
  | [] => true
  | (_, v) :: rest => v.isFinite && entriesFinite rest

end

/-- Whether a value can be read as an object of a kind. -/
def isA (v : Value) (kind : ObjectKind) : Bool :=
  v.isFinite && (Form.object kind).admits false v

mutual

/-- A value with every number as a double, the way it is exchanged as JSON. -/
def doubled : Value → Value
  | .int n => .float (Binary64.ofInt n)
  | .int64 n => .float (Binary64.ofInt n)
  | .uint n => .float (Binary64.ofInt n)
  | .list items => .list (itemsDoubled items)
  | .mapping entries => .mapping (entriesDoubled entries)
  | .null => .null
  | .bool b => .bool b
  | .float x => .float x
  | .text s => .text s

/-- The items of a list with every number as a double. -/
def itemsDoubled : List Value → List Value
  | [] => []
  | v :: rest => v.doubled :: itemsDoubled rest

/-- The entries of a mapping with every number as a double. -/
def entriesDoubled : List (String × Value) → List (String × Value)
  | [] => []
  | (key, v) :: rest => (key, v.doubled) :: entriesDoubled rest

end

end Value

end TypedClient
