import TypedClient.Command.Flag
import TypedClient.Fault
import TypedClient.FileSystem
import TypedClient.TypeScript.Transport
import TypedClient.Yaml.Datum

/-!
# Settings of a generation

The settings start from defaults; a configuration file changes some of them, and flags win over the
file. The keys of the file are the names of the flags, in any spelling with capitals, dashes and
underscores.
-/

namespace TypedClient

/-- All that the user can say about a generation. -/
structure Settings where
  input : String := ""
  output : String := ""
  outputCore : String := ""
  outputModels : String := ""
  outputSchemas : String := ""
  outputServices : String := ""
  client : String := TypeScript.Transport.fetch.label
  request : String := ""
  useOptions : Bool := false
  useUnionTypes : Bool := false
  exportCore : Bool := true
  exportServices : Bool := true
  exportModels : Bool := true
  exportSchemas : Bool := false
  includeTags : List String := []
  excludeTags : List String := []
  /-- The configuration file, if there is one. -/
  configPath : String := ""
  dryRun : Bool := false
  force : Bool := false
  verbose : Bool := false
deriving DecidableEq, Repr

namespace Settings

/-- The settings that are texts. -/
inductive TextField where
  | input
  | output
  | outputCore
  | outputModels
  | outputSchemas
  | outputServices
  | client
  | request
deriving DecidableEq, Repr

/-- The settings that are switches. -/
inductive SwitchField where
  | useOptions
  | useUnionTypes
  | exportCore
  | exportServices
  | exportModels
  | exportSchemas
  | dryRun
  | force
  | verbose
deriving DecidableEq, Repr

/-- The settings that are lists of tags. -/
inductive TagsField where
  | includeTags
  | excludeTags
deriving DecidableEq, Repr

namespace TextField

/-- All text settings. -/
def all : List TextField :=
  [input, output, outputCore, outputModels, outputSchemas, outputServices, client, request]

/-- The flag of a setting. -/
def name : TextField → String
  | input => "input"
  | output => "output"
  | outputCore => "output-core"
  | outputModels => "output-models"
  | outputSchemas => "output-schemas"
  | outputServices => "output-services"
  | client => "client"
  | request => "request"

/-- Settings with one text changed. -/
def update (f : TextField) (change : String → String) (s : Settings) : Settings :=
  match f with
  | input => { s with input := change s.input }
  | output => { s with output := change s.output }
  | outputCore => { s with outputCore := change s.outputCore }
  | outputModels => { s with outputModels := change s.outputModels }
  | outputSchemas => { s with outputSchemas := change s.outputSchemas }
  | outputServices => { s with outputServices := change s.outputServices }
  | client => { s with client := change s.client }
  | request => { s with request := change s.request }

end TextField

namespace SwitchField

/-- All switches. -/
def all : List SwitchField :=
  [useOptions, useUnionTypes, exportCore, exportServices, exportModels, exportSchemas, dryRun,
   force, verbose]

/-- The flag of a setting. -/
def name : SwitchField → String
  | useOptions => "use-options"
  | useUnionTypes => "use-union-types"
  | exportCore => "export-core"
  | exportServices => "export-services"
  | exportModels => "export-models"
  | exportSchemas => "export-schemas"
  | dryRun => "dry-run"
  | force => "force"
  | verbose => "verbose"

/-- Settings with one switch set. -/
def set (f : SwitchField) (b : Bool) (s : Settings) : Settings :=
  match f with
  | useOptions => { s with useOptions := b }
  | useUnionTypes => { s with useUnionTypes := b }
  | exportCore => { s with exportCore := b }
  | exportServices => { s with exportServices := b }
  | exportModels => { s with exportModels := b }
  | exportSchemas => { s with exportSchemas := b }
  | dryRun => { s with dryRun := b }
  | force => { s with force := b }
  | verbose => { s with verbose := b }

end SwitchField

namespace TagsField

/-- All lists of tags. -/
def all : List TagsField := [includeTags, excludeTags]

/-- The flag of a setting. -/
def name : TagsField → String
  | includeTags => "include-tags"
  | excludeTags => "exclude-tags"

/-- Settings with one list of tags changed. -/
def update (f : TagsField) (change : List String → List String) (s : Settings) : Settings :=
  match f with
  | includeTags => { s with includeTags := change s.includeTags }
  | excludeTags => { s with excludeTags := change s.excludeTags }

end TagsField

/-- Tags without blanks around them, without empty ones, and each once. -/
def cleanTags (tags : List String) : List String :=
  ((tags.map Text.trim).filter (· ≠ "")).eraseDups

/-! ## The configuration file -/

/-- A setting that a configuration file can change. -/
inductive Field where
  | text (f : TextField)
  | switch (f : SwitchField)
  | tags (f : TagsField)
deriving DecidableEq, Repr

namespace Field

/-- All settings that a configuration file can change. -/
def all : List Field :=
  TextField.all.map text ++ SwitchField.all.map switch ++ TagsField.all.map tags

/-- The flag of a setting. -/
def name : Field → String
  | text f => f.name
  | switch f => f.name
  | tags f => f.name

/-- A key without what may differ between its spellings. -/
def plainKey (key : String) : String :=
  String.ofList ((Text.lower (Text.trim key)).toList.filter (fun c => c != '-' && c != '_'))

/-- Further keys for some settings. -/
def otherKeys : List (String × String) :=
  [("out", "output"), ("httpclient", "client")]

/-- The setting that a key of a configuration file means. -/
def ofKey? (key : String) : Option Field :=
  let plain := plainKey key
  let meant := (otherKeys.lookup plain).getD plain
  all.find? (fun f => plainKey f.name = meant)

end Field

/-- The word for the type of data in messages. -/
def typeName : Yaml.Datum → String
  | .scalar .null => "<nil>"
  | .scalar (.bool _) => "bool"
  | .scalar (.int _) => "int"
  | .scalar (.uint _) => "uint64"
  | .scalar (.float _) => "float64"
  | .scalar (.time _) => "time.Time"
  | .scalar (.text _) => "string"
  | .list _ => "[]interface \x7b\x7d"
  | .record _ => "map[string]interface \x7b\x7d"
  | .table _ => "map[interface \x7b\x7d]interface \x7b\x7d"

/-- A text of a configuration file; null is the empty one. -/
def readText : Yaml.Datum → Except String String
  | .scalar (.text s) => .ok (Text.trim s)
  | .scalar .null => .ok ""
  | v => .error ("expected string, got " ++ typeName v)

/-- A switch of a configuration file; null and the empty text mean no. -/
def readSwitch : Yaml.Datum → Except String Bool
  | .scalar (.bool b) => .ok b
  | .scalar .null => .ok false
  | .scalar (.text s) =>
      let word := Text.lower (Text.trim s)
      if ["true", "t", "1", "yes", "y"].contains word then .ok true
      else if ["false", "f", "0", "no", "n", ""].contains word then .ok false
      else .error ("invalid boolean value " ++ Text.quote s)
  | v => .error ("expected boolean, got " ++ typeName v)

/-- The texts of a list, whose elements are counted from `n`. -/
def readElements : (n : Nat) → List Yaml.Datum → Except String (List String)
  | _, [] => .ok []
  | n, v :: rest => do
      let s ← (readText v).mapError (fun e => "element " ++ toString n ++ ": " ++ e)
      let more ← readElements (n + 1) rest
      return s :: more

/-- Tags of a configuration file: a list, or one text with commas. -/
def readTags : Yaml.Datum → Except String (List String)
  | .scalar .null => .ok []
  | .scalar (.text s) => .ok (Text.splitOn ',' s)
  | .list items => readElements 0 items
  | v => .error ("expected string or list, got " ++ typeName v)

/-- Changes one setting by the data of a configuration file. -/
def Field.apply (f : Field) (v : Yaml.Datum) (s : Settings) : Except String Settings :=
  match f with
  | .text f => do
      let text ← readText v
      return f.update (fun _ => text) s
  | .switch f => do
      let b ← readSwitch v
      return f.set b s
  | .tags f => do
      let tags ← readTags v
      return f.update (fun _ => cleanTags tags) s

/-- Changes settings by one entry of the configuration file at a path. -/
def applyEntry (path : String) (s : Settings) : String × Yaml.Datum → Except Fault Settings
  | (key, v) => match Field.ofKey? key with
    | some f => (f.apply v s).mapError (fun e =>
        .usage ("config field " ++ Text.quote key ++ ": " ++ e))
    | none => .error (.usage
        ("config file " ++ Text.quote path ++ ": unknown field " ++ Text.quote key))

/-- Changes settings by the entries of a configuration file, in the order in which they are
visited. -/
def applyEntries (path : String) (s : Settings) (entries : List (String × Yaml.Datum)) :
    Except Fault Settings :=
  entries.foldlM (applyEntry path) s

/-! ## Flags -/

/-- Changes settings by the flags that were given. -/
def applyFlags (g : Command.Given) (s : Settings) : Settings :=
  let s := TextField.all.foldl (fun s f => match g.text? f.name with
    | some v => f.update (fun _ => Text.trim v) s
    | none => s) s
  let s := SwitchField.all.foldl (fun s f => match g.switch? f.name with
    | some b => f.set b s
    | none => s) s
  TagsField.all.foldl (fun s f => match g.list? f.name with
    | some tags => f.update (fun _ => cleanTags tags) s
    | none => s) s

/-! ## Checks -/

/-- The settings without blanks around texts and with the name of the library in lower case. -/
def normalize (s : Settings) : Settings :=
  let s := TextField.all.foldl (fun s f => f.update Text.trim s) s
  let s := TextField.client.update Text.lower s
  TagsField.all.foldl (fun s f => f.update cleanTags s) s

/-- The names of the libraries that send requests. -/
def transports : List String :=
  TypeScript.Transport.all.map TypeScript.Transport.label

/-- The tags that are both to be included and to be excluded. -/
def overlap (s : Settings) : List String :=
  s.excludeTags.filter s.includeTags.contains

/-- The settings, if they are complete and do not contradict each other. -/
def validate (s : Settings) : Except Fault Settings := do
  if s.input = "" then
    throw (.usage "generate: --input is required (set via flag or config file)")
  if s.output = "" then
    throw (.usage "generate: --output is required (set via flag or config file)")
  let client := if s.client = "" then TypeScript.Transport.fetch.label else s.client
  if !transports.contains client then
    throw (.usage ("generate: unsupported --client " ++ Text.quote client ++ " (allowed: " ++
      ", ".intercalate transports ++ ")"))
  if !s.overlap.isEmpty then
    throw (.usage ("generate: include/exclude tags overlap: " ++ ", ".intercalate s.overlap))
  return { s with client }

/-- The settings that the flags and the entries of a configuration file give. -/
def merge (g : Command.Given) (path : String) (entries : List (String × Yaml.Datum)) :
    Except Fault Settings := do
  let s ← applyEntries path { configPath := path } entries
  (s.applyFlags g).normalize.validate

/-- The entries of the configuration file at a path. -/
def readEntries (fs : FileSystem) (directory : Path) (path : String) :
    Except Fault (List (String × Yaml.Datum)) :=
  match fs.read directory path with
  | .error words => .error (.usage ("read config file " ++ Text.quote path ++ ": " ++ words))
  | .ok text => (Yaml.parseRecord text).mapError (fun words =>
      .usage ("parse config file " ++ Text.quote path ++ ": " ++ words))

/-- The settings that the flags and the configuration file they name give. -/
def load (fs : FileSystem) (directory : Path) (g : Command.Given) : Except Fault Settings := do
  let path := Text.trim ((g.text? "config").getD "")
  let entries ← if path = "" then pure [] else readEntries fs directory path
  merge g path entries

end Settings

end TypedClient
