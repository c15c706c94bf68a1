import TypedClient.Document.Display
import TypedClient.Fault
import TypedClient.Text.Basic

/-!
# The version of a description

A description declares its format under the key `openapi` or `swagger`. The first decides when
both are there, and a null counts as missing.
-/

namespace TypedClient

/-- The format of a description. -/
inductive Version where
  /-- Swagger 2. -/
  | v2
  /-- OpenAPI 3. -/
  | v3
deriving DecidableEq, Repr

namespace Version

/-- The short word for a format. -/
def label : Version → String
  | v2 => "v2"
  | v3 => "v3"

/-- Why a description has no known format. -/
inductive Unknown where
  /-- The key is there, with this text. -/
  | unsupported (key value : String)
  /-- Neither key is there. -/
  | undeclared
deriving DecidableEq, Repr

/-- What is reported of a description without a known format. -/
def Unknown.toFault (u : Unknown) : Fault :=
  .report
    { code := .unsupportedVersion
      message := "unsupported spec version: " ++ match u with
        | .unsupported key value => key ++ " " ++ Text.quote value
        | .undeclared => "document declares neither \"swagger\" nor \"openapi\"" }

/-- The text under a version key, unless it is null. -/
def declared? : Value → Option String
  | .null => none
  | .text s => some (Text.trim s)
  | .float x => some (Layout.plain.number x)
  | v => some v.display

/-- Whether a version text has the given major number. -/
def hasMajor (major text : String) : Bool :=
  Text.startsWith (major ++ ".") text || text == major

/-- The format that a document declares. -/
def detect (doc : Value) : Except Unknown Version :=
  match declared? (doc.field "openapi"), declared? (doc.field "swagger") with
  | some s, _ => if hasMajor "3" s then .ok v3 else .error (.unsupported "openapi" s)
  | none, some s => if hasMajor "2" s then .ok v2 else .error (.unsupported "swagger" s)
  | none, none => .error .undeclared

end Version

/-- The version that a description gives to its interface, under `info`. -/
def Value.interfaceVersion (doc : Value) : String :=
  match (doc.field "info").field "version" with
  | .null => ""
  | .text s => s
  | v => v.display

end TypedClient
