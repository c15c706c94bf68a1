import TypedClient.Path

/-!
# File systems

A file system holds files and directories under their paths from the root. Every operation answers
with the trouble that it meets, in the words that a user knows from the operating system.
-/

namespace TypedClient

/-- Why an operation on a file system fails. -/
inductive Trouble where
  | notFound
  | notDirectory
  | isDirectory
  | fileExists
deriving DecidableEq, Repr

/-- The words for a trouble. -/
def Trouble.text : Trouble → String
  | notFound => "no such file or directory"
  | notDirectory => "not a directory"
  | isDirectory => "is a directory"
  | fileExists => "file exists"

/-- What stands at a path. -/
inductive FileEntry where
  | file (content : String)
  | directory
deriving DecidableEq, Repr

/-- Files and directories under the segments of their paths. -/
structure FileSystem where
  /-- The entries; at most one for each path. -/
  entries : List (List String × FileEntry) := []
deriving Repr

namespace FileSystem

/-- What stands at a path, if the path is there. The root is always there. -/
def entry? (fs : FileSystem) (path : List String) : Option FileEntry :=
  if path = [] then some .directory else fs.entries.lookup path

/-- A file system with one entry changed. -/
def put (fs : FileSystem) (path : List String) (e : FileEntry) : FileSystem :=
  ⟨(path, e) :: fs.entries.filter (fun x => x.1 != path)⟩

/-- A file system without the entry of a path. -/
def erase (fs : FileSystem) (path : List String) : FileSystem :=
  ⟨fs.entries.filter (fun x => x.1 != path)⟩

/-- A file system without a path and all below it. -/
def eraseTree (fs : FileSystem) (path : List String) : FileSystem :=
  ⟨fs.entries.filter (fun x => !path.isPrefixOf x.1)⟩

/-- Goes down from a path that is there, segment by segment. -/
def walk (fs : FileSystem) (path : List String) :
    List String → Except Trouble (List String × FileEntry)
  | [] => match fs.entry? path with
      | none => .error .notFound
      | some e => .ok (path, e)
  | segment :: rest =>
      match fs.entry? path with
      | none => .error .notFound
      | some (.file _) => .error .notDirectory
      | some .directory =>
          if segment = "" ∨ segment = "." then fs.walk path rest
          else if segment = ".." then fs.walk path.dropLast rest
          else fs.walk (path ++ [segment]) rest

/-- Finds what a text names from a directory, the way the operating system does: every segment on
the way has to be there. -/
def find (fs : FileSystem) (directory : Path) (text : String) :
    Except Trouble (List String × FileEntry) :=
  let start := if Text.startsWith "/" text then [] else directory.segments
  if text = "" then .error .notFound else fs.walk start (Text.splitOn '/' text)

/-- The content of the file that a text names, or the words for why it cannot be read. -/
def read (fs : FileSystem) (directory : Path) (text : String) : Except String String :=
  match fs.find directory text with
  | .error t => .error ("open " ++ text ++ ": " ++ t.text)
  | .ok (_, .directory) => .error ("read " ++ text ++ ": " ++ Trouble.isDirectory.text)
  | .ok (_, .file content) => .ok content

/-- The name of an entry directly inside a directory. -/
def childName? (directory path : List String) : Option String :=
  if path.dropLast = directory then path.getLast? else none

/-- The entries directly inside a directory, ascending by name. -/
def children (fs : FileSystem) (directory : List String) : List (String × FileEntry) :=
  (fs.entries.filterMap (fun (path, e) =>
    (childName? directory path).map (fun name => (name, e)))).mergeSort
      (fun a b => Text.le a.1 b.1)

/-- The entries of the directory at a path, or the words for why they cannot be listed; `none`
when there is no such directory. -/
def list (fs : FileSystem) (path : Path) :
    Except String (Option (List (String × FileEntry))) :=
  match fs.walk [] path.segments with
  | .error .notFound => .ok none
  | .error t => .error ("open " ++ path.text ++ ": " ++ t.text)
  | .ok (_, .file _) => .error ("readdirent " ++ path.text ++ ": " ++ Trouble.notDirectory.text)
  | .ok (path, .directory) => .ok (some (fs.children path))

/-- Makes the directories along the segments below a path that is there. -/
def makeBelow (fs : FileSystem) (path : List String) :
    List String → Except (List String) FileSystem
  | [] => .ok fs
  | segment :: rest =>
      let next := path ++ [segment]
      match fs.entry? next with
      | some .directory => fs.makeBelow next rest
      | some (.file _) => .error next
      | none => (fs.put next .directory).makeBelow next rest

/-- Makes a directory and all above it, or gives the words for why it cannot be made. -/
def makeDirectory (fs : FileSystem) (path : Path) : Except String FileSystem :=
  match fs.makeBelow [] path.segments with
  | .ok fs => .ok fs
  | .error blocked =>
      .error ("mkdir " ++ (Path.mk true blocked).text ++ ": " ++ Trouble.notDirectory.text)

/-- Puts a file at a path, in a directory that is there. -/
def place (fs : FileSystem) (path : Path) (content : String) : Except String FileSystem :=
  match fs.entry? path.segments with
  | some .directory => .error ("rename " ++ path.text ++ ": " ++ Trouble.fileExists.text)
  | _ => .ok (fs.put path.segments (.file content))

/-- Writes a file, making the directories above it. Directories that were made stay when the file
cannot be written. -/
def write (fs : FileSystem) (path : Path) (content : String) :
    FileSystem × Except String Unit :=
  match fs.makeDirectory path.parent with
  | .error e => (fs, .error e)
  | .ok made => match made.place path content with
    | .error e => (made, .error e)
    | .ok written => (written, .ok ())

end FileSystem

end TypedClient
