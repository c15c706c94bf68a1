import TypedClient.Text.Quoted

/-!
# Faults

What a run reports when it fails. A fault is a chain: a `Report` carries a code, a message and
where the trouble lies, and may be caused by another fault; a plain fault is only a text, and a
usage fault tells the user how the command was misused.
-/

namespace TypedClient

/-- The category of a report. -/
inductive Code where
  | input
  | network
  | parse
  | unsupportedVersion
  | unresolvedReference
  | template
  | write
  | other (label : String)
deriving DecidableEq, Repr

namespace Code

/-- The word for a category. -/
def label : Code → String
  | input => "InputError"
  | network => "NetworkError"
  | parse => "ParseError"
  | unsupportedVersion => "UnsupportedSpecVersion"
  | unresolvedReference => "UnresolvedReference"
  | template => "TemplateCompilationError"
  | write => "WriteFailure"
  | other label => label

/-- The categories with a word of their own. -/
def known : List Code :=
  [input, network, parse, unsupportedVersion, unresolvedReference, template, write]

/-- The category that a word stands for. -/
def ofLabel (word : String) : Code :=
  (known.find? (fun c => c.label = word)).getD (other word)

end Code

/-- One link of a fault with a category. Empty texts mean that nothing is known. -/
structure Report where
  /-- The category. -/
  code : Code
  /-- What went wrong. -/
  message : String
  /-- A file path, an address or an output path. -/
  location : String := ""
  /-- A pointer into the document. -/
  pointer : String := ""
deriving DecidableEq, Repr

/-- A failure of a run. -/
inductive Fault where
  /-- A text without a category. -/
  | plain (text : String)
  /-- A report without a cause. -/
  | report (r : Report)
  /-- A report of what another fault led to. -/
  | caused (r : Report) (cause : Fault)
  /-- A misuse of the command. -/
  | usage (message : String)
  /-- A misuse of the command that another fault showed. -/
  | usageOf (message : String) (cause : Fault)
  /-- A run that breaks off without a report. -/
  | abort (reason : String)
deriving DecidableEq, Repr

namespace Fault

/-- The fault behind the first link of the chain. -/
def cause? : Fault → Option Fault
  | caused _ c => some c
  | usageOf _ c => some c
  | _ => none

/-- The text of a fault. A report without a message of its own shows its cause. -/
def text : Fault → String
  | plain t => t
  | report r => r.message
  | caused r c => if r.message = "" then r.code.label ++ ": " ++ c.text else r.message
  | usage m => m
  | usageOf m _ => m
  | abort reason => reason

/-- The first report of the chain, with the fault that starts there. -/
def firstReport? : Fault → Option (Report × Fault)
  | plain _ => none
  | report r => some (r, report r)
  | caused r c => some (r, caused r c)
  | usage _ => none
  | usageOf _ c => c.firstReport?
  | abort _ => none

/-- The category of the first report of the chain. -/
def code? (f : Fault) : Option Code :=
  f.firstReport?.map (·.1.code)

/-- The categories that occur along the chain. -/
def codes : Fault → List Code
  | plain _ => []
  | report r => [r.code]
  | caused r c => r.code :: c.codes
  | usage _ => []
  | usageOf _ c => c.codes
  | abort _ => []

/-- Whether a misuse of the command occurs along the chain. -/
def isUsage : Fault → Bool
  | plain _ => false
  | report _ => false
  | caused _ c => c.isUsage
  | usage _ => true
  | usageOf _ _ => true
  | abort _ => false

/-- The fault as the command line shows it: a report becomes a usage fault that lists all it
knows, and any other fault stays as it is. -/
def forUser (f : Fault) (outDir : String) : Fault :=
  match f.firstReport? with
  | none => f
  | some (r, start) =>
      let location := if r.location = "" then "" else "\nLocation: " ++ r.location
      let cause := match start.cause? with
        | some c => "\nCause: " ++ c.text
        | none => ""
      if r.code = .write then
        usageOf ("output error for " ++ outDir ++ ": " ++ f.text ++ location ++ cause ++
          "\nHint: choose a different --output or check directory permissions.") f
      else
        let pointer := if r.pointer = "" then "" else "\nPointer: " ++ r.pointer
        usageOf (r.code.label ++ ": " ++ start.text ++ location ++ pointer ++
          (if r.message = "" then "" else cause)) f

end Fault

/-- A reference that leads nowhere. -/
structure Unresolved where
  /-- What is referred to. -/
  pointer : String
  /-- Where the reference stands. -/
  referrer : String
deriving DecidableEq, Repr

/-- The report of a reference that leads nowhere. -/
def Unresolved.toReport (u : Unresolved) : Report where
  code := .unresolvedReference
  message := "unresolved reference " ++ Text.quote u.pointer ++ " (referenced from " ++
    u.referrer ++ ")"
  location := u.referrer
  pointer := u.pointer

end TypedClient
