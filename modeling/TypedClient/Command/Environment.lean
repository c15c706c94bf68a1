import TypedClient.Command.Switch
import TypedClient.Fault
import TypedClient.Number.Duration
import TypedClient.Number.Whole
import TypedClient.Text.Basic

/-!
# Settings from the environment

A few settings come from environment variables only. Every variable is looked up with the name of
the program in front of it, and then without.
-/

namespace TypedClient

/-- How much a run tells about itself. -/
inductive LogLevel where
  | debug
  | info
  | warn
  | error
deriving DecidableEq, Repr

namespace LogLevel

/-- The word for a level. -/
def label : LogLevel → String
  | debug => "DEBUG"
  | info => "INFO"
  | warn => "WARN"
  | error => "ERROR"

/-- The level that a text names; a text that names none means warnings. -/
def ofText (s : String) : LogLevel :=
  match Text.lower (Text.trim s) with
  | "debug" => debug
  | "info" => info
  | "error" => error
  | _ => warn

end LogLevel

/-- The settings from the environment. -/
structure Environment where
  /-- The name of the log level. -/
  logLevel : String := "warn"
  /-- The time for a request in nanoseconds. -/
  httpTimeout : Int := 30000000000
  /-- How often a request is made again. -/
  maxRetries : Int := 3
  /-- Where traces go, if anywhere. -/
  traceEndpoint : String := ""
  /-- Whether traces go there without encryption. -/
  traceInsecure : Bool := false
deriving DecidableEq, Repr

namespace Environment

/-- The whole number that a text stands for, or the words for why it stands for none. -/
def whole (s : String) : Except String Int :=
  (Whole.ofText s).mapError (fun e =>
    "strconv.ParseInt: parsing " ++ Text.quote s ++ ": " ++ e.text)

/-- What stands in front of the names of the variables. -/
def programMark : String := "SWAGGER2TS_"

/-- The names of the variables. -/
def names : List String :=
  ["LOG_LEVEL", "HTTP_TIMEOUT", "MAX_RETRIES", "OTEL_EXPORTER_OTLP_ENDPOINT",
   "OTEL_EXPORTER_OTLP_INSECURE"]

/-- What the variables say under a name. -/
def find? (vars : String → Option String) (name : String) : Option String :=
  vars (programMark ++ name) <|> vars name

/-- One setting: what the variable says, or the default where it is not set. -/
def setting {α : Type} (vars : String → Option String) (name field type : String)
    (default : α) (read : String → Except String α) : Except Fault α :=
  match find? vars name with
  | none => .ok default
  | some value => (read value).mapError (fun details => .usage
      ("environment: envconfig.Process: assigning " ++ programMark ++ name ++ " to " ++ field ++
        ": converting '" ++ value ++ "' to type " ++ type ++ ". details: " ++ details))

/-- The settings that variables give. The first variable that cannot be read is reported. -/
def ofVariables (vars : String → Option String) : Except Fault Environment := do
  let d : Environment := {}
  let logLevel ← setting vars "LOG_LEVEL" "LogLevel" "string" d.logLevel .ok
  let httpTimeout ← setting vars "HTTP_TIMEOUT" "HTTPTimeout" "time.Duration" d.httpTimeout
    Duration.ofText
  let maxRetries ← setting vars "MAX_RETRIES" "MaxRetries" "int" d.maxRetries whole
  let traceEndpoint ← setting vars "OTEL_EXPORTER_OTLP_ENDPOINT" "OtelExporterOtlpEndpoint"
    "string" d.traceEndpoint .ok
  let traceInsecure ← setting vars "OTEL_EXPORTER_OTLP_INSECURE" "OtelExporterOtlpInsecure"
    "bool" d.traceInsecure Switch.ofWord
  return { logLevel, httpTimeout, maxRetries, traceEndpoint, traceInsecure }

end Environment

end TypedClient
