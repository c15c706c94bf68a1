import TypedClient.Fault
import TypedClient.FileSystem
import TypedClient.Output.Layout

/-!
# The files of a client

The plan of the output: the texts of all files under their paths. Where two files have the same
path, the later one counts; the index comes last.
-/

namespace TypedClient

/-- How the code of a client is generated. -/
structure CodeStyle where
  /-- The library that sends requests. -/
  transport : TypeScript.Transport := .fetch
  /-- The choices for the code. -/
  choices : TypeScript.Choices := {}
deriving DecidableEq, Repr

/-- One file of the output. -/
structure PlannedFile where
  /-- Where it goes. -/
  path : Path
  /-- Its text. -/
  content : String
deriving DecidableEq, Repr

/-- The files of the output, ascending by the texts of their paths. -/
structure OutputPlan where
  /-- The output directory. -/
  root : Path
  /-- The files. -/
  files : List PlannedFile
deriving DecidableEq, Repr

namespace OutputPlan

/-- A file of a directory. -/
def fileIn (directory : Path) (name content : String) : PlannedFile :=
  ⟨directory.descend (name ++ ".ts"), content⟩

/-- What is reported of a file that takes the place of the request file and cannot be read. -/
def requestFault (request words : String) : Fault :=
  .caused
    { code := .input, message := "read request override: " ++ words, location := request }
    (.plain words)

/-- The text of the request file: generated, or read from the file that replaces it. -/
def requestText (fs : FileSystem) (directory : Path) (style : CodeStyle) (request : String)
    (c : Client) : Except Fault String :=
  if request = "" then .ok (TypeScript.CoreFile.text style.transport c .request)
  else match fs.read directory request with
    | .ok content => .ok content
    | .error words => .error (requestFault request words)

/-- The core files. -/
def coreFiles (fs : FileSystem) (directory : Path) (style : CodeStyle) (o : OutputOptions)
    (l : OutputLayout) (c : Client) : Except Fault (List PlannedFile) :=
  if o.exports.core then do
    let request ← requestText fs directory style o.request c
    return TypeScript.CoreFile.all.map (fun f =>
      fileIn l.core f.name
        (if f = .request then request else f.text style.transport c))
  else .ok []

/-- The core file of a name. -/
def coreFileNamed (name : String) : Except Fault TypeScript.CoreFile :=
  match TypeScript.CoreFile.ofName? name with
  | some f => .ok f
  | none => .error (.report
      { code := .input, message := "unknown core file " ++ Text.quote name })

/-- What is reported of a schema that cannot be written. -/
def schemaFault : Fault :=
  let words := "a number of the schema is not finite"
  .caused { code := .template, message := "render schema: " ++ words } (.plain words)

/-- The text of the file of a schema. -/
def schemaText (s : RawSchema) : Except Fault String :=
  match TypeScript.schemaFile? s with
  | some text => .ok text
  | none => .error schemaFault

/-- The files of the schemas. -/
def schemaFiles (l : OutputLayout) (c : Client) : Except Fault (List PlannedFile) :=
  c.schemas.mapM (fun s => do
    let text ← schemaText s
    return fileIn l.schemas ("$" ++ s.name) text)

/-- All files in the order in which they are generated. -/
def generated (fs : FileSystem) (directory : Path) (style : CodeStyle) (o : OutputOptions)
    (l : OutputLayout) (c : Client) : Except Fault (List PlannedFile) := do
  let core ← coreFiles fs directory style o l c
  let models := if o.exports.models then
      c.models.map (fun m => fileIn l.models m.name (TypeScript.modelFile style.choices m))
    else []
  let schemas ← if o.exports.schemas then schemaFiles l c else pure []
  let services := if o.exports.services then
      c.services.map (fun s => fileIn l.services (s.name ++ "Service")
        (TypeScript.serviceFile style.choices
          (Path.importText l.services.text l.models.text)
          (Path.importText l.services.text l.core.text) s))
    else []
  let index := fileIn l.root "index"
    (TypeScript.indexFile style.choices o.exports l.fromIndex c)
  return core ++ models ++ schemas ++ services ++ [index]

/-- The files by the texts of their paths. -/
def byPath (files : List PlannedFile) : List PlannedFile :=
  (Dict.ofEntries (files.map (fun f => (f.path.text, f)))).map Prod.snd

/-- The plan of a client. -/
def ofClient (fs : FileSystem) (directory : Path) (style : CodeStyle) (o : OutputOptions)
    (c : Client) : Except Fault OutputPlan :=
  if Text.trim o.output = "" then
    .error (.report { code := .input, message := "output directory is required" })
  else do
    let l := OutputLayout.ofOptions directory o
    let files ← generated fs directory style o l c
    return ⟨l.root, byPath files⟩

/-- The way from the output directory to a file. -/
def relativeText (p : OutputPlan) (f : PlannedFile) : String :=
  Path.relativeText p.root.text f.path.text

end OutputPlan

end TypedClient
