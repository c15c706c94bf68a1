import TypedClient.Path
import TypedClient.TypeScript.File

/-!
# Where the generated files go

Every category of files has a directory, by default one below the output directory.
-/

namespace TypedClient

/-- What the user says about the output. -/
structure OutputOptions where
  /-- The output directory, which holds the index. -/
  output : String := ""
  /-- The directory of the core files, if not the default. -/
  core : String := ""
  /-- The directory of the models, if not the default. -/
  models : String := ""
  /-- The directory of the schemas, if not the default. -/
  schemas : String := ""
  /-- The directory of the services, if not the default. -/
  services : String := ""
  /-- The categories that are written. -/
  exports : TypeScript.Exports := {}
  /-- A file that takes the place of the request file. -/
  request : String := ""
  /-- Whether files are written at all. -/
  write : Bool := false
  /-- Whether an output directory that is not empty is written to. -/
  force : Bool := false
deriving DecidableEq, Repr

/-- The directories of the output. -/
structure OutputLayout where
  /-- The output directory. -/
  root : Path
  /-- The directory of the core files. -/
  core : Path
  /-- The directory of the models. -/
  models : Path
  /-- The directory of the schemas. -/
  schemas : Path
  /-- The directory of the services. -/
  services : Path
deriving DecidableEq, Repr

namespace OutputLayout

/-- The layout that the options ask for in a working directory. -/
def ofOptions (directory : Path) (o : OutputOptions) : OutputLayout :=
  let root := Path.absolute directory o.output
  let category (given name : String) : Path :=
    if Text.trim given = "" then root.descend name else Path.absolute directory given
  { root
    core := category o.core "core"
    models := category o.models "models"
    schemas := category o.schemas "schemas"
    services := category o.services "services" }

/-- The directories of the categories that are written. -/
def exported (l : OutputLayout) (e : TypeScript.Exports) : List Path :=
  (if e.core then [l.core] else []) ++ (if e.models then [l.models] else []) ++
  (if e.schemas then [l.schemas] else []) ++ (if e.services then [l.services] else [])

/-- The directories of the categories as the index imports them. -/
def fromIndex (l : OutputLayout) : TypeScript.Directories where
  core := Path.importText l.root.text l.core.text
  models := Path.importText l.root.text l.models.text
  schemas := Path.importText l.root.text l.schemas.text
  services := Path.importText l.root.text l.services.text

end OutputLayout

end TypedClient
