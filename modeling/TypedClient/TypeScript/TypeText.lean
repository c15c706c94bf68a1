import TypedClient.Model.Basic
import TypedClient.TypeScript.Comment
import TypedClient.TypeScript.Literal

/-!
# Type expressions of the generated code
-/

namespace TypedClient.TypeScript

/-- The type expression of a primitive type. -/
def primitiveText (type format : String) : String :=
  match type with
  | "integer" | "number" => "number"
  | "string" => if format = "binary" then "Blob" else "string"
  | "boolean" => "boolean"
  | "file" | "binary" => "Blob"
  | "null" => "null"
  | "object" => "Record<string, any>"
  | _ => "any"

/-- Type expressions joined by an operator, between parentheses when there are several. -/
def joined (operator : String) : List String → String
  | [] => "any"
  | [one] => one
  | many => "(" ++ operator.intercalate many ++ ")"

/-- Literals as a choice, between parentheses when there are several. -/
def choiceText (members : List EnumMember) : String :=
  match members.map (fun e => literal e.value) with
  | [] => ""
  | [one] => one
  | many => "(" ++ " | ".intercalate many ++ ")"

/-- A type expression with null added, unless it has null already. -/
def orNull (nullable : Bool) (text : String) : String :=
  if nullable && text != "any" && text != "null" then text ++ " | null" else text

mutual

/-- The type expression of a model, the lines of which start with `indent`. -/
def typeText (indent : String) : Model → String
  | .absent => "any"
  | .node t ps i ms =>
      let text := match t.kind with
        | .reference => t.target
        | .generic => primitiveText t.type t.format
        | .enum => choiceText t.enum
        | .array => "Array<" ++ typeText indent i ++ ">"
        | .dictionary => "Record<string, " ++ typeText indent i ++ ">"
        | .allOf => joined " & " (memberTexts indent ms)
        | .oneOf => joined " | " (memberTexts indent ms)
        | .anyOf => joined " | " (memberTexts indent ms)
        | .interface =>
            if ps.isEmpty then "Record<string, any>"
            else "\x7b\n" ++ propertyTexts (indent ++ "    ") ps ++ indent ++ "\x7d"
        | .other _ => "any"
      orNull t.nullable (if text = "" then "any" else text)

/-- The type expressions of the members of a composition. -/
def memberTexts (indent : String) : List Model → List String
  | [] => []
  | m :: rest => typeText indent m :: memberTexts indent rest

/-- The properties of an object type, each with its comment on lines of its own. -/
def propertyTexts (indent : String) : List (Property Model) → String
  | [] => ""
  | ⟨name, exportName, required, m⟩ :: rest =>
      (if m.isAbsent then ""
        else documentation indent m.traits.description m.traits.deprecated) ++
      indent ++ (if exportName = "" then name else exportName) ++
      (if required then "" else "?") ++ ": " ++ typeText indent m ++ ";\n" ++
      propertyTexts indent rest

end

end TypedClient.TypeScript
