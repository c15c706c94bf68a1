import TypedClient.Description.Schema
import TypedClient.Document.Pointer
import TypedClient.Model.Basic

/-!
# The model of a schema

The model of a schema that stands at a pointer. References are kept, and schemas inside the schema
stay inside the model. Two extension keys are looked up in the document at the pointer:
`x-nullable`, and for enums the names and descriptions of the members.
-/

namespace TypedClient.Model

/-- The mapping at a pointer of the document; empty when there is none. -/
def extensionsAt (doc : Value) (pointer : String) : Dict Value :=
  ((Pointer.lookup? doc pointer).map Value.entries).getD []

/-- The text under an extension key at a pointer, without blanks around it. -/
def extensionText (doc : Value) (pointer key : String) : String :=
  Text.trim (((Dict.get? (extensionsAt doc pointer) key).map Value.textOrEmpty).getD "")

/-- The item of a list under a key, as a text. -/
def listedText (extensions : Dict Value) (key : String) (i : Nat) : String :=
  let items := ((Dict.get? extensions key).bind Value.list?).getD []
  (items[i]?.map Value.textOrEmpty).getD ""

/-- The members of an enum from the `i`-th value on, with the names and descriptions that the
extensions list. -/
def enumMembers (extensions : Dict Value) (i : Nat) : List Value → List EnumMember
  | [] => []
  | value :: rest =>
      { value, name := listedText extensions "x-enum-varnames" i
        description := listedText extensions "x-enum-descriptions" i } ::
        enumMembers extensions (i + 1) rest

/-- The type of an enum that names none, from its first value. -/
def typeOfValue : Value → String
  | .text _ => "string"
  | .bool _ => "boolean"
  | .float _ | .int _ | .int64 _ => "number"
  | _ => "any"

/-- What the keywords of a schema say, before its sort is known. -/
def traitsOf (doc : Value) (facts : SchemaFacts) (pointer : String) : Traits where
  kind := .generic
  pointer
  type := facts.type
  format := facts.format
  description := Text.trim facts.description
  deprecated := facts.deprecated
  nullable := facts.nullable ||
    ((Dict.get? (extensionsAt doc pointer) "x-nullable").bind Value.bool?).getD false
  default := facts.default

mutual

/-- The model of a schema that stands at a pointer. -/
def ofSchema (doc : Value) (pointer : String) : Schema → Model
  | .missing => primitive "any" pointer
  | .reference target => referenceTo (Pointer.canonical target) pointer
  | .inline facts allOf oneOf anyOf items properties additional =>
      let t := traitsOf doc facts pointer
      match facts.enum, allOf, oneOf, anyOf with
      | first :: _, _, _, _ =>
          leaf { t with
            kind := .enum
            type := if facts.type = "" then typeOfValue first else facts.type
            enum := enumMembers (extensionsAt doc pointer) 0 facts.enum }
      | [], _ :: _, _, _ =>
          let own := match properties with
            | [] => []
            | _ :: _ => [.node { kind := .interface, pointer }
                (ofProperties doc pointer facts.required properties) .absent []]
          .node { t with kind := .allOf } [] .absent
            (ofMembers doc (pointer ++ "/allOf") 0 allOf ++ own)
      | [], [], _ :: _, _ =>
          .node { t with kind := .oneOf } [] .absent
            (ofMembers doc (pointer ++ "/oneOf") 0 oneOf)
      | [], [], [], _ :: _ =>
          .node { t with kind := .anyOf } [] .absent
            (ofMembers doc (pointer ++ "/anyOf") 0 anyOf)
      | [], [], [], [] =>
          if facts.type = "array" || !items.isMissing then
            .node { t with kind := .array, type := "array" } []
              (ofSchema doc (pointer ++ "/items") items) []
          else if !properties.isEmpty then
            .node { t with kind := .interface, type := "object" }
              (ofProperties doc pointer facts.required properties) .absent []
          else if !additional.isMissing || facts.type = "object" || facts.unrestricted then
            .node { t with kind := .dictionary, type := "object" } []
              (ofSchema doc (pointer ++ "/additionalProperties") additional) []
          else
            leaf { t with type := if facts.type = "" then "any" else facts.type }

/-- The models of listed schemas, the first of which is the `i`-th below a pointer. -/
def ofMembers (doc : Value) (pointer : String) (i : Nat) : List Schema → List Model
  | [] => []
  | s :: rest =>
      ofSchema doc (pointer ++ "/" ++ toString i) s :: ofMembers doc pointer (i + 1) rest

/-- The properties of an object at a pointer. -/
def ofProperties (doc : Value) (pointer : String) (required : List String) :
    List (String × Schema) → List (Property Model)
  | [] => []
  | (name, s) :: rest =>
      { name
        required := required.contains name
        model := ofSchema doc (pointer ++ "/properties/" ++ Pointer.escape name) s } ::
        ofProperties doc pointer required rest

end

end TypedClient.Model
