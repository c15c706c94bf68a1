import TypedClient.Document.Json

/-!
# Literals of the generated code

Texts are written between single quotes or between backticks, and values as literal expressions.
-/

namespace TypedClient.TypeScript

/-- A character between single quotes. -/
def quotedChar (c : Char) : List Char :=
  if c = '\\' then ['\\', '\\']
  else if c = '\x27' then ['\\', '\x27']
  else if c = '\n' then ['\\', 'n']
  else if c = '\r' then ['\\', 'r']
  else [c]

/-- A text as a literal between single quotes. -/
def quoted (s : String) : String :=
  String.ofList ('\x27' :: s.toList.flatMap quotedChar ++ ['\x27'])

/-- Characters between backticks: a dollar sign is escaped where it would start a substitution. -/
def templateChars : List Char → List Char
  | [] => []
  | '$' :: '\x7b' :: rest => '\\' :: '$' :: '\x7b' :: templateChars rest
  | c :: rest => if c = '\\' || c = '\x60' then '\\' :: c :: templateChars rest
      else c :: templateChars rest

/-- A text as a template literal between backticks. -/
def template (s : String) : String :=
  String.ofList ('\x60' :: templateChars s.toList ++ ['\x60'])

/-- A value as a literal expression. -/
def literal : Value → String
  | .null => "null"
  | .text s => quoted s
  | .bool b => if b then "true" else "false"
  | .float x => Layout.plain.number x
  | v => (Json.text? Json.compact 0 v).getD "undefined"

end TypedClient.TypeScript
