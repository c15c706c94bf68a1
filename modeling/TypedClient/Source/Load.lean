import TypedClient.Document.Text
import TypedClient.FileSystem
import TypedClient.Source.Fetch

/-!
# Loading a description

A description is read from a file or downloaded from a web address, and then parsed.
-/

namespace TypedClient.Source

/-- What a run knows of the world around it. -/
structure Surroundings where
  /-- The files. -/
  files : FileSystem
  /-- The working directory. -/
  directory : Path
  /-- What the network answers, request by request. -/
  replies : Nat → Fetch.Reply := fun _ => .failure "network is unreachable"
  /-- How often a request is made again. -/
  maxRetries : Int := 3
  /-- Whether the run was called off. -/
  cancelled : Bool := false

/-- A loaded description, or why there is none, with what happened on the network. -/
structure Loaded where
  /-- The description. -/
  result : Except Fault Value
  /-- The requests made. -/
  requests : Nat := 0
  /-- The warnings given. -/
  warnings : Nat := 0

/-- A report about the input. -/
def inputFault (message location : String) : Fault :=
  .report { code := .input, message, location }

/-- The description in a text that was found at a location. -/
def parse (location text : String) : Except Fault Value :=
  match Value.ofText text with
  | .ok doc => .ok doc
  | .error e => .error (e.toFault location)

/-- Downloads a description. -/
def download (s : Surroundings) (input : String) (a : Address) : Loaded :=
  if a.scheme = "file" then
    { result := .error
        (inputFault "spec: file:// URLs are not supported, pass a path instead" input) }
  else if a.scheme ≠ "http" ∧ a.scheme ≠ "https" then
    { result := .error (inputFault
        ("spec: unsupported URL scheme " ++ Text.quote a.scheme ++ " (only http/https allowed)")
        input) }
  else
    let d := Fetch.download s.cancelled s.maxRetries a s.replies
    let result : Except Fault Value := match d.result with
      | .ok body => parse input body
      | .error reason => .error (.caused
          { code := .network, message := "fetch " ++ input ++ ": " ++ reason, location := input }
          (.plain reason))
    { result, requests := d.requests, warnings := d.warnings }

/-- Reads a description from a file. -/
def readFile (s : Surroundings) (input : String) : Except Fault Value :=
  let path := (Path.absolute s.directory input).text
  match s.files.read s.directory path with
  | .ok text => parse path text
  | .error words => .error (.caused
      { code := .input, message := "read file " ++ path ++ ": " ++ words, location := path }
      (.plain words))

/-- Loads the description that an input names. -/
def load (s : Surroundings) (input : String) : Loaded :=
  if Text.trim input = "" then { result := .error (inputFault "spec: input is empty" "") }
  else match Address.ofText? input with
    | some a => download s input a
    | none => { result := readFile s input }

end TypedClient.Source
