import TypedClient.Command.Environment
import TypedClient.Command.Sample
import TypedClient.Command.Settings
import TypedClient.Command.Verb
import TypedClient.Generation

/-!
# Running a command line

A command line asks for one thing: a client, a sample configuration, the version or help. What it
does is a function from the files before to the files after, with what is printed.
-/

namespace TypedClient.Command

/-- The version of the program. -/
def version : String := "dev"

/-- What a command line asks for. -/
inductive Request where
  /-- Generate a client. -/
  | generate (given : Given)
  /-- Write a sample of a configuration file. -/
  | sample (given : Given)
  /-- Write a completion script. -/
  | script (shell : Shell)
  /-- Explain a command. -/
  | help (verb : Verb)
  /-- Tell the version. -/
  | version
deriving DecidableEq, Repr

namespace Request

/-- The fault of a word that stands for no command. -/
def unknownCommand (word : String) (v : Verb) : Fault :=
  .plain ("unknown command " ++ Text.quote word ++ " for " ++ Text.quote v.path)

/-- The command that is to be explained; the program itself when the words lead to none. -/
def topic (others : List String) : Verb :=
  match Verb.find others with
  | .ok (v, _) => v
  | .error _ => .root

/-- What the arguments of a command ask for. -/
def ofVerb (v : Verb) (a : Arguments) : Except Fault Request :=
  if a.given.switch? "help" = some true then .ok (.help v)
  else match v with
    | .root => if a.given.switch? "version" = some true then .ok .version else .ok (.help .root)
    | .completion => .ok (.help .completion)
    | .script shell => match a.others with
        | [] => .ok (.script shell)
        | word :: _ => .error (unknownCommand word v)
    | .generate => .ok (.generate a.given)
    | .help => .ok (.help (topic a.others))
    | .init => .ok (.sample a.given)

/-- What a command line asks for. -/
def ofArguments (arguments : List String) : Except Fault Request := do
  let (v, rest) ← (Verb.find arguments).mapError (fun word => unknownCommand word .root)
  let a ← (Arguments.read v.allFlags rest).mapError (fun e =>
    .usage (e.text ++ "\n\n" ++ v.usage))
  ofVerb v a

end Request

/-- What a run leaves behind. -/
structure Outcome where
  /-- The files afterwards. -/
  files : FileSystem
  /-- What the command prints. -/
  printed : String := ""
  /-- Help or the version, if the command line asks for it. -/
  notice : String := ""
  /-- Whether the run went well. -/
  result : Except Fault Unit := .ok ()

/-- What the settings and the environment ask the generator to do. -/
def generationOptions (s : Settings) : GenerationOptions where
  input := s.input
  transport := s.client
  choices := ⟨s.useOptions, s.useUnionTypes⟩
  filter := ⟨s.includeTags, s.excludeTags⟩
  output :=
    { output := s.output
      core := s.outputCore
      models := s.outputModels
      schemas := s.outputSchemas
      services := s.outputServices
      exports :=
        { core := s.exportCore, models := s.exportModels, schemas := s.exportSchemas
          services := s.exportServices }
      request := s.request
      write := !s.dryRun
      force := s.force }

/-- The list of the files that a run would write. -/
def planText (output : Path) (plan : OutputPlan) : String :=
  "Planned writes to " ++ output.text ++ " (" ++ toString plan.files.length ++ " files):\n" ++
    String.join (plan.files.map (fun f => "- " ++ plan.relativeText f ++ "\n"))

/-- The surroundings with the repetitions that the environment asks for. A number that is not
positive changes nothing. -/
def withEnvironment (w : Source.Surroundings) (e : Environment) : Source.Surroundings :=
  if e.maxRetries > 0 then { w with maxRetries := e.maxRetries } else w

/-- Generates a client. The environment is read after the settings. -/
def generateClient (vars : String → Option String) (w : Source.Surroundings) (g : Given) :
    Outcome :=
  let prepared : Except Fault (Settings × Environment) := do
    let s ← Settings.load w.files w.directory g
    let e ← Environment.ofVariables vars
    return (s, e)
  match prepared with
  | .error f => { files := w.files, result := .error f }
  | .ok (s, e) =>
      let output := Path.absolute w.directory s.output
      match generate (withEnvironment w e) (generationOptions s) with
      | (files, .error f) => { files, result := .error (f.forUser output.text) }
      | (files, .ok plan) => { files, printed := if s.dryRun then planText output plan else "" }

/-- Writes a sample of a configuration file. -/
def runSample (w : Source.Surroundings) (g : Given) : Outcome :=
  let out := (g.text? "out").getD Sample.defaultPath
  match Sample.write w.files w.directory out ((g.switch? "force").getD false) with
  | (files, .error f) => { files, result := .error f }
  | (files, .ok path) =>
      { files, printed := "Wrote sample config to " ++ path.text ++ "\n" }

/-- A completion script, which offers the words for commands. -/
def scriptText (shell : Shell) : String :=
  let program := Verb.root.name
  let words := " ".intercalate (Verb.root.children.map Verb.name)
  match shell with
  | .bash => "complete -W \"" ++ words ++ "\" " ++ program ++ "\n"
  | .fish => "complete -c " ++ program ++ " -f -a \"" ++ words ++ "\"\n"
  | .powershell =>
      "Register-ArgumentCompleter -Native -CommandName " ++ program ++
        " -ScriptBlock \x7b \"" ++ words ++ "\".Split(\" \") \x7d\n"
  | .zsh => "compctl -k \"(" ++ words ++ ")\" " ++ program ++ "\n"

/-- Does what a request asks for. -/
def Request.run (vars : String → Option String) (w : Source.Surroundings) :
    Request → Outcome
  | generate g => generateClient vars w g
  | sample g => runSample w g
  | script shell => { files := w.files, notice := scriptText shell }
  | help v => { files := w.files, notice := v.helpText }
  | version =>
      { files := w.files
        notice := Verb.root.name ++ " version " ++ Command.version ++ "\n" }

/-- Runs a command line. -/
def run (vars : String → Option String) (w : Source.Surroundings)
    (arguments : List String) : Outcome :=
  match Request.ofArguments arguments with
  | .error f => { files := w.files, result := .error f }
  | .ok request => request.run vars w

/-- Runs the whole program, which reads the environment before anything else. -/
def runProgram (vars : String → Option String) (w : Source.Surroundings)
    (arguments : List String) : Outcome :=
  match Environment.ofVariables vars with
  | .error f => { files := w.files, result := .error f }
  | .ok _ => run vars w arguments

end TypedClient.Command
