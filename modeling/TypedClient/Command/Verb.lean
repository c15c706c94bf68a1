import TypedClient.Command.Flag

/-!
# Commands

The program is a command with commands below it. The command that a command line means is found by
the words that are neither flags nor values of flags; which flags take a value depends on the
command reached so far.
-/

namespace TypedClient.Command

/-- The shells that completion scripts are written for. -/
inductive Shell where
  | bash
  | fish
  | powershell
  | zsh
deriving DecidableEq, Repr

/-- The name of a shell. -/
def Shell.name : Shell → String
  | bash => "bash"
  | fish => "fish"
  | powershell => "powershell"
  | zsh => "zsh"

/-- The commands. -/
inductive Verb where
  /-- The program itself. -/
  | root
  /-- Writes the scripts that its commands name. -/
  | completion
  /-- Writes the completion script of a shell. -/
  | script (shell : Shell)
  /-- Generates a client. -/
  | generate
  /-- Explains a command. -/
  | help
  /-- Writes a sample of a configuration file. -/
  | init
deriving DecidableEq, Repr

namespace Verb

/-- The word that stands for a command. -/
def name : Verb → String
  | root => "swagger2ts"
  | completion => "completion"
  | script shell => shell.name
  | generate => "generate"
  | help => "help"
  | init => "init"

/-- The words that lead to a command. -/
def path : Verb → String
  | root => root.name
  | script shell => root.name ++ " " ++ completion.name ++ " " ++ shell.name
  | v => root.name ++ " " ++ v.name

/-- What a command does, in one line. -/
def about : Verb → String
  | root => "Generate TypeScript clients from Swagger/OpenAPI specs"
  | completion => "Generate the autocompletion script for the specified shell"
  | script shell => "Generate the autocompletion script for " ++ shell.name
  | generate => "Generate a TypeScript client from an OpenAPI/Swagger document"
  | help => "Help about any command"
  | init => "Scaffold a sample swagger2ts configuration file"

/-- The commands below a command. -/
def children : Verb → List Verb
  | root => [completion, generate, help, init]
  | completion => [script .bash, script .fish, script .powershell, script .zsh]
  | _ => []

/-- The command of a word below a command. -/
def child? (v : Verb) (word : String) : Option Verb :=
  v.children.find? (fun c => c.name = word)

/-- The flags that every command takes. -/
def sharedFlags : List Flag :=
  [⟨"config", .text, "Config file path (YAML or JSON)", some 'c'⟩,
   ⟨"verbose", .switch, "Enable verbose logging output", some 'v'⟩]

/-- The flags of a command that others do not take. -/
def ownFlags : Verb → List Flag
  | generate =>
      [⟨"input", .text, "Path or URL to the Swagger/OpenAPI document", some 'i'⟩,
       ⟨"output", .text, "Output directory; holds index.ts", some 'o'⟩,
       ⟨"output-core", .text, "Directory for core files (default <output>/core)", none⟩,
       ⟨"output-models", .text, "Directory for models (default <output>/models)", none⟩,
       ⟨"output-schemas", .text, "Directory for schemas (default <output>/schemas)", none⟩,
       ⟨"output-services", .text, "Directory for services (default <output>/services)", none⟩,
       ⟨"client", .text,
        "HTTP client to generate (fetch|xhr|node|axios); defaults to fetch", none⟩,
       ⟨"request", .text, "Path to a custom request.ts replacing the generated one", none⟩,
       ⟨"use-options", .switch,
        "Use a single options object instead of positional arguments", none⟩,
       ⟨"use-union-types", .switch, "Emit string unions instead of enums", none⟩,
       ⟨"export-core", .switch, "Write core files (default true)", none⟩,
       ⟨"export-services", .switch, "Write services (default true)", none⟩,
       ⟨"export-models", .switch, "Write models (default true)", none⟩,
       ⟨"export-schemas", .switch, "Write validation schemas", none⟩,
       ⟨"include-tags", .list, "Only include operations with these tags", none⟩,
       ⟨"exclude-tags", .list, "Exclude operations with these tags", none⟩,
       ⟨"dry-run", .switch, "Preview planned outputs without writing files", none⟩,
       ⟨"force", .switch, "Overwrite existing output when set", none⟩]
  | init =>
      [⟨"out", .text, "Where to write the sample config file", none⟩,
       ⟨"force", .switch, "Overwrite the target file if it already exists", none⟩]
  | script _ => [⟨"no-descriptions", .switch, "disable completion descriptions", none⟩]
  | _ => []

/-- The flags that tell words from values while a command is looked for. -/
def flags (v : Verb) : List Flag :=
  v.ownFlags ++ sharedFlags

/-- The flags of a command that was found: besides the others, those that ask for help and, of the
program itself, for its version. -/
def allFlags (v : Verb) : List Flag :=
  v.flags ++ [⟨"help", .switch, "help for " ++ v.name, some 'h'⟩] ++
    (if v = root then [⟨"version", .switch, "version for " ++ v.name, none⟩] else [])

/-- Whether an argument takes the next one as its value: it is a flag by name or by one letter,
without an equals sign, and no known switch. -/
def takesNext (v : Verb) (argument : String) : Bool :=
  match argument.toList with
  | '-' :: '-' :: name =>
      !name.contains '=' &&
        !(named? v.flags (String.ofList name)).any (fun f => f.kind = .switch)
  | ['-', c] =>
      c.toNat < 0x80 && c != '=' && !(lettered? v.flags c).any (fun f => f.kind = .switch)
  | _ => false

/-- Whether an argument is a word and no flag. -/
def isWord (argument : String) : Bool :=
  argument ≠ "" && !Text.startsWith "-" argument

/-- The words among arguments. A flag that takes a value ends the search when at most its value
follows it. -/
def words (v : Verb) : List String → List String
  | [] => []
  | [argument] => if isWord argument then [argument] else []
  | argument :: next :: rest =>
      if argument = "--" then []
      else if v.takesNext argument then
        if rest.isEmpty then [] else v.words rest
      else if isWord argument then argument :: v.words (next :: rest)
      else v.words (next :: rest)

/-- The arguments without the first occurrence of a word that is no value of a flag. -/
def without (v : Verb) (word : String) : List String → List String
  | [] => []
  | [argument] => if argument = word then [] else [argument]
  | argument :: next :: rest =>
      if argument = "--" then argument :: next :: rest
      else if v.takesNext argument then argument :: next :: v.without word rest
      else if argument = word then next :: rest
      else argument :: v.without word (next :: rest)

/-- Goes down from a command by the first words of the arguments, at most `depth` times. -/
def descend : (depth : Nat) → Verb → List String → Verb × List String
  | 0, v, arguments => (v, arguments)
  | depth + 1, v, arguments =>
      match (v.words arguments).head? with
      | none => (v, arguments)
      | some word => match v.child? word with
        | none => (v, arguments)
        | some c => descend depth c (v.without word arguments)

/-- How many words lead to a command at most. -/
def maxDepth : Nat := 2

/-- The command that arguments mean, and the arguments for it. A word that stands for no command
of the program is given as the failure. -/
def find (arguments : List String) : Except String (Verb × List String) :=
  let (v, rest) := descend maxDepth root arguments
  match v, v.words rest with
  | .root, word :: _ => .error word
  | v, _ => .ok (v, rest)

/-- A line of help for a flag. -/
def flagLine (f : Flag) : String :=
  let kind := match f.kind with
    | .text => " string"
    | .switch => ""
    | .list => " strings"
  (if f.letter.isSome then "  " else "      ") ++ f.shown ++ kind ++ "\n        " ++ f.about ++ "\n"

/-- How a command is used. -/
def usage (v : Verb) : String :=
  let commands := String.join (v.children.map (fun c => "  " ++ c.name ++ "  " ++ c.about ++ "\n"))
  "Usage:\n  " ++ v.path ++ " [flags]\n" ++
    (if v.children.isEmpty then "" else
      "  " ++ v.path ++ " [command]\n\nAvailable Commands:\n" ++ commands) ++
    "\nFlags:\n" ++ String.join (v.allFlags.map flagLine)

/-- The help of a command. -/
def helpText (v : Verb) : String :=
  v.about ++ "\n\n" ++ v.usage

end Verb

end TypedClient.Command
