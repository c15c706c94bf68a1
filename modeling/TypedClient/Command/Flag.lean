import TypedClient.Command.Switch
import TypedClient.Text.Separated

/-!
# Flags

A command line is a list of arguments. A flag is given by its name behind two dashes or by its
letter behind one; a value follows behind an equals sign or as the next argument, and a switch
needs none. Letters of switches can be bundled. Behind `--` no argument is a flag.
-/

namespace TypedClient.Command

/-- What kind of value a flag takes. -/
inductive FlagKind where
  /-- A text; the last one counts. -/
  | text
  /-- Yes or no; the last one counts. -/
  | switch
  /-- A record of texts; all records count. -/
  | list
deriving DecidableEq, Repr

/-- A flag of a command. -/
structure Flag where
  /-- The name. -/
  name : String
  /-- The kind of value. -/
  kind : FlagKind
  /-- What it is for. -/
  about : String
  /-- The letter, if there is one. -/
  letter : Option Char := none
deriving DecidableEq, Repr

/-- How messages name a flag. -/
def Flag.shown (f : Flag) : String :=
  match f.letter with
  | some c => "-" ++ String.ofList [c] ++ ", --" ++ f.name
  | none => "--" ++ f.name

/-- The value of a flag that was given. -/
inductive FlagValue where
  | text (s : String)
  | switch (b : Bool)
  | list (xs : List String)
deriving DecidableEq, Repr

/-- The flags that were given, each name once. -/
abbrev Given := List (String × FlagValue)

namespace Given

/-- The given flags with one more value. -/
def put (g : Given) (name : String) (v : FlagValue) : Given :=
  (name, v) :: g.filter (fun e => e.1 != name)

/-- The text of a flag, if it was given. -/
def text? (g : Given) (name : String) : Option String :=
  match g.lookup name with
  | some (.text s) => some s
  | _ => none

/-- The switch of a flag, if it was given. -/
def switch? (g : Given) (name : String) : Option Bool :=
  match g.lookup name with
  | some (.switch b) => some b
  | _ => none

/-- The list of a flag, if it was given. -/
def list? (g : Given) (name : String) : Option (List String) :=
  match g.lookup name with
  | some (.list xs) => some (Separated.settled xs)
  | _ => none

end Given

/-- Why arguments cannot be read. -/
inductive FlagFailure where
  /-- An argument starts with dashes and has no name. -/
  | malformed (argument : String)
  /-- There is no flag of that name. -/
  | unknown (name : String)
  /-- There is no flag of the first letter. -/
  | unknownLetter (letters : List Char)
  /-- A flag stands at the end and has no value. -/
  | noValue (argument : String)
  /-- A letter stands at the end and has no value. -/
  | noLetterValue (letters : List Char)
  /-- The value of a flag cannot be read. -/
  | badValue (flag : Flag) (value details : String)
deriving DecidableEq, Repr

/-- The first byte of a character, as the character of that code. -/
def firstByte (c : Char) : Char :=
  match (String.ofList [c]).toUTF8.toList with
  | b :: _ => Char.ofNat b.toNat
  | [] => c

/-- The first letter of a bundle in quotes. -/
def quotedLetter (letters : List Char) : String :=
  match letters with
  | c :: _ => Text.quoteChar (firstByte c)
  | [] => ""

/-- The words for a failure. -/
def FlagFailure.text : FlagFailure → String
  | malformed argument => "bad flag syntax: " ++ argument
  | unknown name => "unknown flag: --" ++ name
  | unknownLetter letters =>
      "unknown shorthand flag: " ++ quotedLetter letters ++ " in -" ++ String.ofList letters
  | noValue argument => "flag needs an argument: " ++ argument
  | noLetterValue letters =>
      "flag needs an argument: " ++ quotedLetter letters ++ " in -" ++ String.ofList letters
  | badValue flag value details =>
      "invalid argument " ++ Text.quote value ++ " for " ++ Text.quote flag.shown ++ " flag: " ++
        details

/-- The value of a flag after one more text for it. -/
def Flag.read (f : Flag) (g : Given) (value : String) : Except String FlagValue :=
  match f.kind with
  | .text => .ok (.text value)
  | .switch => (Switch.ofWord value).map .switch
  | .list => do
      let more ← if value = "" then pure [] else Separated.read value
      match g.lookup f.name with
      | some (.list xs) => return .list (xs ++ more)
      | _ => return .list more

/-- The given flags after one more text for a flag. -/
def Given.set (g : Given) (f : Flag) (value : String) : Except FlagFailure Given :=
  match f.read g value with
  | .ok v => .ok (g.put f.name v)
  | .error details => .error (.badValue f value details)

/-- The flag of a name. -/
def named? (flags : List Flag) (name : String) : Option Flag :=
  flags.find? (fun f => f.name = name)

/-- The flag of a letter. -/
def lettered? (flags : List Flag) (c : Char) : Option Flag :=
  flags.find? (fun f => f.letter = some c)

/-- What arguments say: the flags that were given and the other arguments. -/
structure Arguments where
  given : Given := []
  others : List String := []
deriving DecidableEq, Repr

/-- What a part of the arguments says: the flags given so far, and whether the next argument was
taken as a value. -/
structure Step where
  given : Given
  tookNext : Bool := false
deriving DecidableEq, Repr

/-- Reads a flag that was given by its name; `body` is the argument without its two dashes. -/
def readName (flags : List Flag) (g : Given) (argument : String) (body : List Char)
    (next? : Option String) : Except FlagFailure Step :=
  if body.head? = some '-' ∨ body.head? = some '=' then .error (.malformed argument)
  else
    let (name, value) := body.span (· != '=')
    match named? flags (String.ofList name) with
    | none => .error (.unknown (String.ofList name))
    | some f => match value with
      | _ :: value => do return { given := ← g.set f (String.ofList value) }
      | [] =>
          if f.kind = .switch then do return { given := ← g.set f "true" }
          else match next? with
            | some value => do return { given := ← g.set f value, tookNext := true }
            | none => .error (.noValue argument)

/-- Reads a bundle of letters. A bundle that goes on with `test.` is left alone. -/
def readLetters (flags : List Flag) (g : Given) (next? : Option String) :
    List Char → Except FlagFailure Step
  | [] => .ok { given := g }
  | c :: rest =>
      if "test.".toList.isPrefixOf (c :: rest) then .ok { given := g }
      else match lettered? flags c with
        | none => .error (.unknownLetter (c :: rest))
        | some f => match rest with
          | '=' :: v :: value => do return { given := ← g.set f (String.ofList (v :: value)) }
          | rest => do
              if f.kind = .switch then
                let g ← g.set f "true"
                readLetters flags g next? rest
              else if !rest.isEmpty then return { given := ← g.set f (String.ofList rest) }
              else match next? with
                | some value => return { given := ← g.set f value, tookNext := true }
                | none => throw (.noLetterValue (c :: rest))

/-- Reads one argument that starts with a dash. -/
def readFlag (flags : List Flag) (g : Given) (argument : String) (next? : Option String) :
    Except FlagFailure Step :=
  match argument.toList with
  | '-' :: '-' :: body => readName flags g argument body next?
  | _ :: letters => readLetters flags g next? letters
  | [] => .ok { given := g }

/-- Whether an argument is a flag: it starts with a dash and is more than a dash. -/
def isFlag (argument : String) : Bool :=
  match argument.toList with
  | '-' :: _ :: _ => true
  | _ => false

/-- Reads arguments in turn; `skip` says that the first one was taken as a value. -/
def readArguments (flags : List Flag) (a : Arguments) : (skip : Bool) → List String →
    Except FlagFailure Arguments
  | _, [] => .ok a
  | true, _ :: rest => readArguments flags a false rest
  | false, argument :: rest =>
      if argument = "--" then .ok { a with others := a.others ++ rest }
      else if isFlag argument then do
        let step ← readFlag flags a.given argument rest.head?
        readArguments flags { a with given := step.given } step.tookNext rest
      else readArguments flags { a with others := a.others ++ [argument] } false rest

/-- What arguments say to a command with the given flags. -/
def Arguments.read (flags : List Flag) (arguments : List String) :
    Except FlagFailure Arguments :=
  readArguments flags {} false arguments

end TypedClient.Command
