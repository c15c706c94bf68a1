import TypedClient.Fault
import TypedClient.FileSystem

/-!
# A sample of a configuration file

The sample explains every key that a configuration file may hold.
-/

namespace TypedClient.Sample

/-- The lines of the sample. -/
def lines : List String := [
  "# swagger2ts configuration (YAML)",
  "# All fields are optional. Command-line flags override config values.",
  "",
  "# Path or URL to the Swagger/OpenAPI document (http/https or local file).",
  "# input: ./openapi.yaml",
  "",
  "# Output directory; index.ts is written here.",
  "# output: ./generated",
  "",
  "# Per-category directories. Default to <output>/core, models, schemas, services.",
  "# outputCore: ./generated/core",
  "# outputModels: ./generated/models",
  "# outputSchemas: ./generated/schemas",
  "# outputServices: ./generated/services",
  "",
  "# HTTP client for core/request.ts (fetch|xhr|node|axios). Defaults to fetch.",
  "# client: fetch",
  "",
  "# Replace the generated core/request.ts with this file.",
  "# request: ./src/custom-request.ts",
  "",
  "# Pass operation arguments as a single options object.",
  "# useOptions: false",
  "",
  "# Emit string unions instead of enums.",
  "# useUnionTypes: false",
  "",
  "# Categories to write. Schemas are off by default.",
  "# exportCore: true",
  "# exportServices: true",
  "# exportModels: true",
  "# exportSchemas: false",
  "",
  "# Only include operations with these tags (comma-separated or list).",
  "# includeTags: [public,read]",
  "",
  "# Exclude operations with these tags (comma-separated or list).",
  "# excludeTags: [internal]",
  "",
  "# Preview planned outputs without writing files.",
  "# dryRun: false",
  "",
  "# Overwrite non-empty output directory.",
  "# force: false",
  "",
  "# Enable verbose logging.",
  "# verbose: false"]

/-- The text of the sample. -/
def text : String :=
  "\n".intercalate lines ++ "\n"

/-- Where the sample goes unless the user says otherwise. -/
def defaultPath : String := "swagger2ts.yaml"

/-- Writes the sample to a path. An existing file is only replaced by force. The answer is the path
from the root. -/
def write (fs : FileSystem) (directory : Path) (out : String) (force : Bool) :
    FileSystem × Except Fault Path :=
  let out := Text.trim out
  let path := Path.absolute directory (if out = "" then defaultPath else out)
  let shown := Text.quote path.text
  match fs.walk [] path.segments with
  | .ok (_, .directory) => (fs, .error (.usage ("init: " ++ shown ++ " is a directory")))
  | .ok (_, .file _) =>
      if force then place path
      else (fs, .error (.usage
        ("init: " ++ shown ++ " already exists (use --force to overwrite)")))
  | .error _ => place path
where
  /-- Writes the sample where no directory is. -/
  place (path : Path) : FileSystem × Except Fault Path :=
    match fs.makeDirectory path.parent with
    | .error words =>
        (fs, .error (.usage ("init: cannot create parent directory: " ++ words)))
    | .ok made => match made.place path text with
      | .ok written => (written, .ok path)
      | .error words =>
          (made, .error (.usage ("init: cannot place file at " ++ path.text ++ ": " ++ words)))

end TypedClient.Sample
