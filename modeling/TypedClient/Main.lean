import TypedClient.Command.Run

/-!
# The program

Looks at the files that a run is about, runs it on them, and carries out the changes. What happens
is decided by `Command.runProgram`.
-/

namespace TypedClient.Program

/-- The content of a file, if it can be read; what is not text counts as empty. -/
def content? (path : String) : IO (Option String) := do
  try
    return some ((String.fromUTF8? (← IO.FS.readBinFile path)).getD "")
  catch _ => return none

/-- A file system with what stands at a path. -/
def look (fs : FileSystem) (path : Path) : IO FileSystem := do
  if ← ((← IO.currentDir) / path.text).isDir then
    return fs.put path.segments .directory
  match ← content? path.text with
  | some text => return fs.put path.segments (.file text)
  | none => return fs

/-- A file system with what stands at a path, above it and directly inside it. -/
def lookAround (fs : FileSystem) (path : Path) : IO FileSystem := do
  let mut fs := fs
  for n in List.range (path.segments.length + 1) do
    fs ← look fs ⟨true, path.segments.take n⟩
  let place := (← IO.currentDir) / path.text
  if ← place.isDir then
    for e in ← place.readDir do
      fs ← look fs (path.descend e.fileName)
  return fs

/-- A file system with all that texts lead to. -/
def lookAll (fs : FileSystem) (directory : Path) (texts : List String) : IO FileSystem := do
  let mut fs := fs
  for text in texts do
    for path in Path.trail directory text do
      fs ← lookAround fs path
  return fs

/-- The paths that a generation is about. -/
def places (directory : Path) (s : Settings) : List String :=
  let l := OutputLayout.ofOptions directory (Command.generationOptions s).output
  [s.input, s.request, l.root.text, l.core.text, l.models.text, l.schemas.text, l.services.text]

/-- The part of the file system that a command line is about. -/
def observe (directory : Path) (arguments : List String) : IO FileSystem := do
  match Command.Request.ofArguments arguments with
  | .ok (.generate g) =>
      let fs ← lookAll {} directory [Text.trim ((g.text? "config").getD "")]
      match Settings.load fs directory g with
      | .ok s => lookAll fs directory (places directory s)
      | .error _ => return fs
  | .ok (.sample g) =>
      lookAll {} directory [Text.trim ((g.text? "out").getD ""), Sample.defaultPath]
  | _ => return {}

/-- Carries out the changes between two file systems. -/
def carryOut (before after : FileSystem) : IO Unit := do
  for (path, e) in after.entries do
    if before.entry? path != some e then
      let p := Path.mk true path
      match e with
      | .directory => IO.FS.createDirAll p.text
      | .file text =>
          IO.FS.createDirAll p.parent.text
          IO.FS.writeFile p.text text
  for (path, _) in before.entries do
    if (after.entry? path).isNone then
      IO.FS.removeFile (Path.mk true path).text

/-- The variables of the environment that a run is about. -/
def environmentVariables : IO (List (String × String)) := do
  let names := Environment.names ++ Environment.names.map (Environment.programMark ++ ·)
  let mut found := []
  for name in names do
    if let some value ← IO.getEnv name then
      found := (name, value) :: found
  return found

/-- Runs a command line and says whether it went well. -/
def run (arguments : List String) : IO UInt32 := do
  let directory := Path.ofText (← IO.currentDir).toString
  let files ← observe directory arguments
  let vars ← environmentVariables
  let outcome := Command.runProgram (fun name => vars.lookup name) { files, directory } arguments
  carryOut files outcome.files
  IO.print (outcome.notice ++ outcome.printed)
  match outcome.result with
  | .ok () => return 0
  | .error f =>
      IO.eprintln ("Error: " ++ f.text)
      return 1

end TypedClient.Program

/-- The command line. -/
def main (arguments : List String) : IO UInt32 :=
  TypedClient.Program.run arguments
