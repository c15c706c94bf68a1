import TypedClient.Output.Plan

/-!
# Writing the files of a client

The files are written in order, unless the output directory holds something and its use is not
forced. When it is forced, files of the generated kind that are no longer part of the output are
removed from the directories of the written categories.
-/

namespace TypedClient.OutputPlan

/-- The report of an output directory that is not empty. -/
def occupied (root : Path) : Fault :=
  .report
    { code := .input
      message := "output directory " ++ root.text ++ " is not empty (use --force to overwrite)"
      location := root.text }

/-- Whether the output directory holds something. -/
def isOccupied (fs : FileSystem) (root : Path) : Bool :=
  match fs.walk [] root.segments with
  | .ok (path, .directory) => !(fs.children path).isEmpty
  | _ => false

/-- The fault of a run that is called off. -/
def cancelled : Fault :=
  .plain "context canceled"

/-- Writes files in turn until one cannot be written. -/
def writeAll (root : Path) (fs : FileSystem) :
    List PlannedFile → FileSystem × Except Fault Unit
  | [] => (fs, .ok ())
  | f :: rest =>
      match fs.write f.path f.content with
      | (fs, .ok ()) => writeAll root fs rest
      | (fs, .error words) =>
          (fs, .error (.caused
            { code := .write
              message := "write " ++ Path.relativeText root.text f.path.text ++ ": " ++ words
              location := f.path.text } (.plain words)))

/-- Whether an entry of a directory is a generated file that is not part of the output. -/
def isStale (kept : List Path) (directory : Path) (name : String) (e : FileEntry) : Bool :=
  match e with
  | .file _ => Path.extension name = ".ts" && !kept.contains (directory.descend name)
  | .directory => false

/-- Removes the stale files of a directory. -/
def sweep (kept : List Path) (fs : FileSystem) (directory : Path) : Except Fault FileSystem :=
  match fs.list directory with
  | .error words =>
      .error (.caused
        { code := .write, message := "read " ++ directory.text ++ ": " ++ words
          location := directory.text } (.plain words))
  | .ok none => .ok fs
  | .ok (some entries) =>
      .ok ((entries.filter (fun (name, e) => isStale kept directory name e)).foldl
        (fun fs (name, _) => fs.erase (directory.segments ++ [name])) fs)

/-- Removes the stale files of directories in turn until one cannot be read. -/
def sweepAll (kept : List Path) (fs : FileSystem) :
    List Path → FileSystem × Except Fault Unit
  | [] => (fs, .ok ())
  | directory :: rest =>
      match sweep kept fs directory with
      | .ok fs => sweepAll kept fs rest
      | .error f => (fs, .error f)

/-- Writes the files of a plan and removes what is stale in the given directories. A run that was
called off writes nothing. -/
def commit (isCancelled force : Bool) (exported : List Path) (p : OutputPlan) (fs : FileSystem) :
    FileSystem × Except Fault Unit :=
  if !force && isOccupied fs p.root then (fs, .error (occupied p.root))
  else if isCancelled then (fs, .error cancelled)
  else match writeAll p.root fs p.files with
    | (fs, .error f) => (fs, .error f)
    | (fs, .ok ()) =>
        if force then sweepAll (p.files.map PlannedFile.path) fs exported.eraseDups
        else (fs, .ok ())

end TypedClient.OutputPlan
