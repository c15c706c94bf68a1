import TypedClient.Text.Basic

/-!
# Documentation comments of the generated code

A comment starts with `/**` and ends with the only `*/` in it: one in the text is broken up.
-/

namespace TypedClient.TypeScript

/-- A line of text inside a comment. -/
def commentLine (indent line : String) : String :=
  let safe := (Text.replace "*/" "*\\/" line).toList
  let text := String.ofList (Text.dropEndWhile (fun c => c = ' ' || c = '\t' || c = '\r') safe)
  if text = "" then indent ++ " *\n" else indent ++ " * " ++ text ++ "\n"

/-- A comment of the given lines. -/
def comment (indent : String) (lines : List String) : String :=
  indent ++ "/**\n" ++ String.join (lines.map (commentLine indent)) ++ indent ++ " */\n"

/-- The comment on something with a description that may be deprecated; nothing when there is
nothing to say. -/
def documentation (indent description : String) (deprecated : Bool) : String :=
  let text := Text.trim description
  let lines := (if text = "" then [] else Text.splitOn '\n' text) ++
    (if deprecated then ["@deprecated"] else [])
  if lines.isEmpty then "" else comment indent lines

end TypedClient.TypeScript
