import TypedClient.Document.Display
import TypedClient.Model.Basic

/-!
# Shapes

The shape of a model is a text that describes its structure and leaves out its documentation, its
names and where it stands. References count by their target. Anonymous models of one shape are
the same type.
-/

namespace TypedClient.Model

/-- The shape of one enum member: what sort of value, which value, and its name. -/
def memberShape (e : EnumMember) : String :=
  "," ++ e.value.typeName ++ ":" ++ e.value.display ++ "=" ++ e.name

mutual

/-- The shape of a model. -/
def shape : Model → String
  | absent => "nil;"
  | node t ps i ms =>
      let inner := match t.kind with
        | .reference => t.target
        | .generic => t.type ++ "," ++ t.format
        | .enum => t.type ++ String.join (t.enum.map memberShape)
        | .interface => shapeOfProperties ps
        | .array => i.shape
        | .dictionary => i.shape
        | _ => shapeOfMembers ms
      t.kind.label ++ "(" ++ inner ++ (if t.nullable then "|null" else "") ++ ");"

/-- The shapes of a list of properties. -/
def shapeOfProperties : List (Property Model) → String
  | [] => ""
  | ⟨name, _, required, m⟩ :: rest =>
      name ++ (if required then "!" else "") ++ ":" ++ m.shape ++ shapeOfProperties rest

/-- The shapes of a list of members. -/
def shapeOfMembers : List Model → String
  | [] => ""
  | m :: rest => m.shape ++ shapeOfMembers rest

end

end TypedClient.Model
