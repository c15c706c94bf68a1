import TypedClient.Operation.MediaType
import TypedClient.Operation.StatusText
import TypedClient.Operation
import TypedClient.TypeScript.TypeText

/-!
# Methods of the generated services

An operation becomes a static method that passes its parameters on to the request function.
-/

namespace TypedClient.TypeScript

/-- The choices that the user has for the generated code. -/
structure Choices where
  /-- Whether a method takes all parameters as one object. -/
  useOptions : Bool := false
  /-- Whether an enum becomes a union of literals. -/
  useUnionTypes : Bool := false
deriving DecidableEq, Repr

/-- The blanks in front of the parameters of a method. -/
def parameterIndent : String := "        "

/-- A parameter of a method that takes them one by one. -/
def positional (p : Parameter) : String :=
  let type := typeText parameterIndent p.model
  if !p.default.isNull then p.exportName ++ ": " ++ type ++ " = " ++ literal p.default
  else p.exportName ++ (if p.required then ": " else "?: ") ++ type

/-- The name of a parameter in the object that a method takes apart, with its default. -/
def destructured (p : Parameter) : String :=
  parameterIndent ++ p.exportName ++
    (if p.default.isNull then "" else " = " ++ literal p.default) ++ ",\n"

/-- The type of a parameter in the object that a method takes apart. -/
def destructuredType (p : Parameter) : String :=
  documentation parameterIndent p.description false ++ parameterIndent ++ p.exportName ++
    (if p.required then "" else "?") ++ ": " ++ typeText parameterIndent p.model ++ ",\n"

/-- The parameter list of a method. -/
def signature (choices : Choices) (op : Operation) : String :=
  if op.parameters.isEmpty then ""
  else if choices.useOptions then
    "\x7b\n" ++ String.join (op.parameters.map destructured) ++ "    \x7d: \x7b\n" ++
      String.join (op.parameters.map destructuredType) ++ "    \x7d" ++
      (if op.parameters.any (·.required) then "" else " = \x7b\x7d")
  else
    "\n" ++ parameterIndent ++
      (",\n" ++ parameterIndent).intercalate (op.parameters.map positional) ++ ",\n    "

/-- The type of the answer of a method. -/
def resultText (op : Operation) : String :=
  match op.success? with
  | none => "void"
  | some r => if r.model.isAbsent then "void" else typeText "    " r.model

/-- The first line of a text. -/
def firstLine (s : String) : String :=
  (Text.cut '\n' (Text.trim s)).1

/-- The comment on a method. -/
def operationComment (op : Operation) : String :=
  comment "    " (
    (if op.summary = "" then [] else [op.summary]) ++
    (if op.description = "" then [] else [op.description]) ++
    (if op.deprecated then ["@deprecated"] else []) ++
    op.parameters.map (fun p =>
      Text.trim ("@param " ++ p.exportName ++ " " ++ firstLine p.description)) ++
    (op.success?.map (fun r =>
      Text.trim ("@returns " ++ resultText op ++ " " ++ firstLine r.description))).toList ++
    ["@throws ApiError"])

/-- Whether a body of the media type is sent as a form. -/
def isForm (mediaType : String) : Bool :=
  mediaType = MediaType.multipart || mediaType = MediaType.form

/-- The failures with a number; one without a description has the standard text. -/
def numberedFailures (op : Operation) : List Result :=
  (op.failures.filter (fun r => r.code ≠ 0)).map (fun r =>
    if Text.trim r.description = "" then { r with description := statusText r.code } else r)

/-- An object of the request, when it has entries. -/
def requestObject (name : String) (entries : List String) : String :=
  if entries.isEmpty then ""
  else "\n            " ++ name ++ ": \x7b" ++
    String.join (entries.map (fun e => "\n                " ++ e ++ ",")) ++ "\n            \x7d,"

/-- The parameters of a location as entries of an object. -/
def located (op : Operation) (location : Location) : List String :=
  (op.parameters.filter (fun p => p.location = location)).map (fun p =>
    quoted p.name ++ ": " ++ p.exportName)

/-- The body of the request. -/
def requestBody (op : Operation) : String :=
  match op.parameters.find? (fun p => p.location = .body) with
  | none => ""
  | some p =>
      "\n            " ++ (if isForm p.mediaType then "formData" else "body") ++ ": " ++
        p.exportName ++ ",\n            mediaType: " ++ quoted p.mediaType ++ ","

/-- The method of an operation. -/
def methodText (choices : Choices) (op : Operation) : String :=
  "\n" ++ operationComment op ++ "    public static " ++ op.name ++ "(" ++ signature choices op ++
  "): CancelablePromise<" ++ resultText op ++ "> \x7b\n" ++
  "        return __request(OpenAPI, \x7b\n" ++
  "            method: '" ++ Text.upper op.method.label ++ "',\n" ++
  "            url: " ++ quoted op.path ++ "," ++
  requestObject "path" (located op .path) ++
  requestObject "cookies" (located op .cookie) ++
  requestObject "headers" (located op .header) ++
  requestObject "query" (located op .query) ++
  requestBody op ++
  requestObject "errors" ((numberedFailures op).map (fun r =>
    toString r.code ++ ": " ++ template r.description)) ++
  "\n        \x7d);\n    \x7d"

end TypedClient.TypeScript
