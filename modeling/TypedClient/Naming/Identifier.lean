import TypedClient.Text.Quoted

/-!
# Identifiers of the generated code

Which words name something in the generated code without quotes, which are reserved, and how a
name that is neither is written.
-/

namespace TypedClient.Naming

/-- Whether a character may start a plain identifier. -/
def isIdentifierStart (c : Char) : Bool :=
  c.isAlpha || c = '_' || c = '$'

/-- Whether a character may follow in a plain identifier. -/
def isIdentifierRest (c : Char) : Bool :=
  c.isAlphanum || c = '_' || c = '$'

/-- Whether a text is a plain identifier. -/
def isIdentifier (s : String) : Bool :=
  match s.toList with
  | [] => false
  | c :: rest => isIdentifierStart c && rest.all isIdentifierRest

/-- A property name as an object key: bare when it is an identifier, quoted otherwise. -/
def propertyKey (s : String) : String :=
  if isIdentifier s then s else Text.quote s

/-- The words that cannot name a variable or a parameter in strict mode. -/
def reservedWords : List String :=
  ["arguments", "await", "break", "case", "catch", "class", "const", "continue", "debugger",
   "default", "delete", "do", "else", "enum", "eval", "export", "extends", "false", "finally",
   "for", "function", "if", "implements", "import", "in", "instanceof", "interface", "let",
   "new", "null", "package", "private", "protected", "public", "return", "static", "super",
   "switch", "this", "throw", "true", "try", "typeof", "undefined", "var", "void", "while",
   "with", "yield"]

/-- Whether a word is reserved. -/
def isReserved (s : String) : Bool :=
  reservedWords.contains s

/-- A word that is safe as a name: a reserved one gets an underscore. -/
def escapeReserved (s : String) : String :=
  if isReserved s then s ++ "_" else s

end TypedClient.Naming
