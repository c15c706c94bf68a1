import TypedClient.Draft
import TypedClient.TypeScript.Method
import TypedClient.TypeScript.Request
import TypedClient.TypeScript.Support

/-!
# Files of the generated code

One file for each model, schema and service, the core files that they are built on, and an index
that exports everything.
-/

namespace TypedClient.TypeScript

/-- A value that a member of a declared enum can have. -/
def isEnumValue : Value → Bool
  | .text _ | .float _ | .int _ | .int64 _ => true
  | _ => false

/-- Whether a model is declared as an enum. -/
def isEnum (choices : Choices) (m : Model) : Bool :=
  !choices.useUnionTypes && m.kind = .enum && !m.traits.enum.isEmpty &&
    m.traits.enum.all (fun e => isEnumValue e.value)

/-- A line that imports a type of the same name as its file. -/
def importType (directory name : String) : String :=
  "import type \x7b " ++ name ++ " \x7d from '" ++ directory ++ "/" ++ name ++ "';\n"

/-- A member of a declared enum, with its comment. -/
def enumMemberText (e : EnumMember) : String :=
  documentation "    " e.description false ++ "    " ++ e.name ++ " = " ++ literal e.value ++ ",\n"

/-- The declaration of a model. -/
def declaration (choices : Choices) (m : Model) : String :=
  if isEnum choices m then
    "export enum " ++ m.name ++ " \x7b\n" ++ String.join (m.traits.enum.map enumMemberText) ++
      "\x7d\n"
  else "export type " ++ m.name ++ " = " ++ typeText "" m ++ ";\n"

/-- The file of a model. -/
def modelFile (choices : Choices) (m : Model) : String :=
  headed (String.join (m.traits.imports.map (importType ".")) ++ "\n" ++
    documentation "" m.traits.description m.traits.deprecated ++ declaration choices m)

/-- A raw schema as code; null is an empty object, and a number that is not finite has no text. -/
def rawText? (raw : Value) : Option String :=
  if raw.isNull then some "\x7b\x7d" else Json.text? Json.indented 0 raw

/-- The file of a schema, if the schema has a text. -/
def schemaFile? (s : RawSchema) : Option String :=
  (rawText? s.raw).map (fun text => headed ("export const $" ++ s.name ++ " = " ++ text ++ " as const;\n"))

/-- The file of a service, with the directories of models and core files as seen from it. -/
def serviceFile (choices : Choices) (modelsPath corePath : String) (s : Service) : String :=
  headed (String.join (s.imports.map (importType modelsPath)) ++
    importType corePath "CancelablePromise" ++
    "import \x7b OpenAPI \x7d from '" ++ corePath ++ "/OpenAPI';\n" ++
    "import \x7b request as __request \x7d from '" ++ corePath ++ "/request';\n\n" ++
    "export class " ++ s.name ++ "Service \x7b" ++
    String.join (s.operations.map (methodText choices)) ++ "\n\x7d\n")

/-- The core files. -/
inductive CoreFile where
  | apiError
  | apiRequestOptions
  | apiResult
  | cancelablePromise
  | settings
  | request
deriving DecidableEq, Repr

namespace CoreFile

/-- All core files. -/
def all : List CoreFile :=
  [apiError, apiRequestOptions, apiResult, cancelablePromise, settings, request]

/-- The name of a core file without its extension. -/
def name : CoreFile → String
  | apiError => "ApiError"
  | apiRequestOptions => "ApiRequestOptions"
  | apiResult => "ApiResult"
  | cancelablePromise => "CancelablePromise"
  | settings => "OpenAPI"
  | request => "request"

/-- The core file of a name. -/
def ofName? (name : String) : Option CoreFile :=
  all.find? (fun f => f.name = name)

/-- The text of a core file. -/
def text (transport : Transport) (c : Client) : CoreFile → String
  | apiError => apiErrorFile
  | apiRequestOptions => apiRequestOptionsFile
  | apiResult => apiResultFile
  | cancelablePromise => cancelablePromiseFile
  | settings => settingsFile c.server c.version
  | request => requestFile transport

end CoreFile

/-- The categories of files that are written. -/
structure Exports where
  /-- The core files. -/
  core : Bool := false
  /-- The models. -/
  models : Bool := false
  /-- The schemas. -/
  schemas : Bool := false
  /-- The services. -/
  services : Bool := false
deriving DecidableEq, Repr

/-- The directories of the categories as seen from the index. -/
structure Directories where
  /-- The core files. -/
  core : String
  /-- The models. -/
  models : String
  /-- The schemas. -/
  schemas : String
  /-- The services. -/
  services : String
deriving DecidableEq, Repr

/-- A line of the index that exports names of a file. -/
def exportLine (keyword names directory file : String) : String :=
  keyword ++ " \x7b " ++ names ++ " \x7d from '" ++ directory ++ "/" ++ file ++ "';\n"

/-- The lines of the index for the core files. -/
def coreExports (directory : String) : List String :=
  [exportLine "export" "ApiError" directory "ApiError",
   exportLine "export" "CancelablePromise, CancelError" directory "CancelablePromise",
   exportLine "export" "OpenAPI" directory "OpenAPI",
   exportLine "export type" "OpenAPIConfig" directory "OpenAPI"]

/-- The line of the index for a model. -/
def modelExport (choices : Choices) (directory : String) (m : Model) : String :=
  exportLine (if isEnum choices m then "export" else "export type") m.name directory m.name

/-- The line of the index for a schema. -/
def schemaExport (directory : String) (s : RawSchema) : String :=
  exportLine "export" ("$" ++ s.name) directory ("$" ++ s.name)

/-- The line of the index for a service. -/
def serviceExport (directory : String) (s : Service) : String :=
  exportLine "export" (s.name ++ "Service") directory (s.name ++ "Service")

/-- Lines of the index behind a blank line, when they are wanted and there are any. -/
def exportSection (wanted : Bool) (lines : List String) : String :=
  if wanted && !lines.isEmpty then "\n" ++ String.join lines else ""

/-- The index. -/
def indexFile (choices : Choices) (exports : Exports) (dirs : Directories) (c : Client) : String :=
  headed (exportSection exports.core (coreExports dirs.core) ++
    exportSection exports.models (c.models.map (modelExport choices dirs.models)) ++
    exportSection exports.schemas (c.schemas.map (schemaExport dirs.schemas)) ++
    exportSection exports.services (c.services.map (serviceExport dirs.services)))

end TypedClient.TypeScript
