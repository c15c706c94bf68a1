import TypedClient.Description.Form

/-!
# Schemas

A schema of a description, read into the keywords that decide its model. A schema is missing, a
reference, or written in place. Of two lists under spellings of one key the later one replaces the
earlier one, as in `Field.list`.
-/

namespace TypedClient

/-- The keywords of a schema that hold no schemas. -/
structure SchemaFacts where
  /-- The type. -/
  type : String := ""
  /-- A refinement of the type. -/
  format : String := ""
  /-- What the schema is for. -/
  description : String := ""
  /-- Whether use of the schema is discouraged. -/
  deprecated : Bool := false
  /-- Whether null is a value too. -/
  nullable : Bool := false
  /-- The value that stands for a missing one. -/
  default : Value := .null
  /-- The values of an enum. -/
  enum : List Value := []
  /-- The properties that every object has. -/
  required : List String := []
  /-- Whether properties of any name are allowed by a plain yes. -/
  unrestricted : Bool := false

/-- A schema of a description. -/
inductive Schema where
  /-- No schema. -/
  | missing
  /-- A reference to a schema elsewhere. -/
  | reference (target : String)
  /-- A schema written in place. -/
  | inline (facts : SchemaFacts) (allOf oneOf anyOf : List Schema) (items : Schema)
      (properties : List (String × Schema)) (additional : Schema)
deriving Inhabited

namespace Schema

/-- The schemas inside a schema. -/
structure Parts where
  /-- What all of which apply. -/
  allOf : List Schema := []
  /-- What exactly one of which applies. -/
  oneOf : List Schema := []
  /-- What some of which apply. -/
  anyOf : List Schema := []
  /-- The schema of the items. -/
  items : Schema := .missing
  /-- The schemas of the properties. -/
  properties : Dict Schema := []
  /-- The schema of all other properties. -/
  additional : Schema := .missing

/-- The schema with the given keywords and parts. -/
def ofParts (facts : SchemaFacts) (p : Parts) : Schema :=
  .inline facts p.allOf p.oneOf p.anyOf p.items p.properties p.additional

/-- Whether there is no schema. -/
def isMissing : Schema → Bool
  | missing => true
  | _ => false

/-- What a second schema for one field makes of the first: a reference stays unless another
reference replaces it. -/
def overlaidBy (first second : Schema) : Schema :=
  match first, second with
  | .reference t, .inline .. => .reference t
  | _, s => s

/-- What a second value for additional properties, which is read as a schema or is none, makes of
the first schema: no schema leaves the first, and an empty mapping is a new schema that replaces
even a reference. -/
def addedBy (first : Schema) (v : Value) (second : Schema) : Schema :=
  if second.isMissing then first
  else if v.entries.isEmpty then second
  else first.overlaidBy second

/-- The keywords of a schema that hold no schemas. -/
def factsOf (entries : Dict Value) : SchemaFacts where
  type := Field.text "type" entries
  format := Field.text "format" entries
  description := Field.text "description" entries
  deprecated := Field.flag "deprecated" entries
  nullable := Field.flag "nullable" entries
  default := (Field.value "default" entries).doubled
  enum := (Field.list "enum" entries).map Value.doubled
  required := Field.texts "required" entries
  unrestricted := Field.flag "additionalProperties" entries

mutual

/-- The schema that a value stands for. -/
def read : Value → Schema
  | .mapping entries =>
      match Field.target? entries with
      | some target => .reference target
      | none => ofParts (factsOf entries) (readParts {} entries)
  | .null | .bool _ | .int _ | .int64 _ | .uint _ | .float _ | .text _ | .list _ => .missing

/-- The schemas that a list stands for. -/
def readList : Value → List Schema
  | .list items => readItems items
  | .null | .bool _ | .int _ | .int64 _ | .uint _ | .float _ | .text _ | .mapping _ => []

/-- The schemas that a dictionary stands for; null has none, and others are added to `d`. -/
def readDict (d : Dict Schema) : Value → Dict Schema
  | .mapping entries => readEntries d entries
  | .null | .bool _ | .int _ | .int64 _ | .uint _ | .float _ | .text _ | .list _ => []

/-- The schemas of the items of a list. -/
def readItems : List Value → List Schema
  | [] => []
  | v :: rest => read v :: readItems rest

/-- The schemas of the entries of a mapping, added to `d`. -/
def readEntries (d : Dict Schema) : List (String × Value) → Dict Schema
  | [] => d
  | (key, v) :: rest => readEntries (Dict.insert key (read v) d) rest

/-- The schemas inside the entries of a schema, added to `p`. -/
def readParts (p : Parts) : List (String × Value) → Parts
  | [] => p
  | (key, v) :: rest =>
      let next :=
        if Field.isFor "allOf" key then { p with allOf := readList v }
        else if Field.isFor "oneOf" key then { p with oneOf := readList v }
        else if Field.isFor "anyOf" key then { p with anyOf := readList v }
        else if Field.isFor "items" key then { p with items := p.items.overlaidBy (read v) }
        else if Field.isFor "properties" key then
          { p with properties := readDict p.properties v }
        else if Field.isFor "additionalProperties" key then
          { p with additional := p.additional.addedBy v (read v) }
        else p
      readParts next rest

end

/-- The schema of a field. -/
def ofField (name : String) (entries : Dict Value) : Schema :=
  (Field.all name entries).foldl (fun s v => s.overlaidBy (read v)) .missing

end Schema

end TypedClient
