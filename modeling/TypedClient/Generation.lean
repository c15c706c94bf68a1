import TypedClient.Draft.Finish
import TypedClient.Draft.FromDocument
import TypedClient.Draft.Naming
import TypedClient.Draft.Resolution
import TypedClient.Output.Commit
import TypedClient.Source.Load

/-!
# Generating a client

A run loads a description, makes a draft of it, resolves and names the draft, finishes it into a
client, and writes the files of the client.
-/

namespace TypedClient

/-- What a run is asked to do. -/
structure GenerationOptions where
  /-- A path or a web address. -/
  input : String := ""
  /-- A description that is given in place of an input. -/
  document : Option Value := none
  /-- The name of the library that sends requests. -/
  transport : String := "fetch"
  /-- The choices for the code. -/
  choices : TypeScript.Choices := {}
  /-- Which operations are kept. -/
  filter : TagFilter := {}
  /-- Where the files go. -/
  output : OutputOptions :=
    { exports := { core := true, models := true, services := true }, write := true }

/-- The client of a description. -/
def Client.ofDocument (filter : TagFilter) (doc : Value) : Except Fault Client := do
  let draft ← (Draft.ofDocument filter doc).mapError DraftFailure.toFault
  let resolved ← draft.resolve.mapError (fun u => .report u.toReport)
  let named ← resolved.named.mapError (fun u => .report u.toReport)
  return named.finish

/-- The style of the code, unless the library is not known. -/
def CodeStyle.ofOptions (transport : String) (choices : TypeScript.Choices) :
    Except Fault CodeStyle :=
  match TypeScript.Transport.ofLabel? transport with
  | some t => .ok ⟨t, choices⟩
  | none => .error (.report
      { code := .input
        message := "unknown http client " ++ Text.quote transport ++
          " (want fetch, xhr, node or axios)" })

/-- What is reported when there is no client to write. -/
def Client.missing : Fault :=
  .report { code := .input, message := "emitter: client and template registry are required" }

/-- Plans the files of a client, and writes them when asked to. -/
def Client.emit (s : Source.Surroundings) (style : CodeStyle) (o : OutputOptions) (c : Client) :
    FileSystem × Except Fault OutputPlan :=
  match OutputPlan.ofClient s.files s.directory style o c with
  | .error f => (s.files, .error f)
  | .ok plan =>
      if o.write then
        let exported := (OutputLayout.ofOptions s.directory o).exported o.exports
        match plan.commit s.cancelled o.force exported s.files with
        | (fs, .ok ()) => (fs, .ok plan)
        | (fs, .error f) => (fs, .error f)
      else (s.files, .ok plan)

/-- What is known before files are written: the client and the style of its code. -/
def GenerationOptions.prepare (s : Source.Surroundings) (o : GenerationOptions) :
    Except Fault (CodeStyle × Client) := do
  if Text.trim o.output.output = "" then
    throw (.report { code := .input, message := "output directory is required" })
  if o.document.isNone && Text.trim o.input = "" then
    throw (.report { code := .input, message := "input is required" })
  let doc ← match o.document with
    | some doc => pure doc
    | none => (Source.load s o.input).result
  let client ← Client.ofDocument o.filter doc
  let style ← CodeStyle.ofOptions o.transport o.choices
  return (style, client)

/-- A whole run: the files after it, and the plan of the output. -/
def generate (s : Source.Surroundings) (o : GenerationOptions) :
    FileSystem × Except Fault OutputPlan :=
  match o.prepare s with
  | .error f => (s.files, .error f)
  | .ok (style, client) => client.emit s style o.output

end TypedClient
