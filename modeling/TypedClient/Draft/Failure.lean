import TypedClient.Description.Dereference
import TypedClient.Description.Form
import TypedClient.Document.Version
import TypedClient.Operation.Parameters

/-!
# Why a description gives no draft

Nearly all that is read of a description is tested for null first. What is read without a test is
read by `Model.present` or, for the schema under a media type, by `V3.Content.schemaAt`: where
nothing is there, the run breaks off.
-/

namespace TypedClient

/-- Why a description gives no draft. -/
inductive DraftFailure where
  /-- The version is not known. -/
  | version (u : Version.Unknown)
  /-- A part of the description has the wrong form. -/
  | malformed (version : Version)
  /-- What a reference refers to has the wrong form. -/
  | malformedTarget (target : String)
  /-- A reference leads nowhere. -/
  | unresolved (u : Unresolved)
  /-- A parameter is described by content whose media types are all null. -/
  | emptyContent (pointer : String)
  /-- A model is read that is not there. -/
  | absentModel (pointer : String)
deriving DecidableEq, Repr

namespace DraftFailure

/-- What is said of a part that has the wrong form. -/
def wrongForm : Fault :=
  .plain "a value has a form that the description does not allow"

/-- The report of a part that has the wrong form. -/
def malformedFault (what pointer : String) : Fault :=
  .caused
    { code := .parse, message := "decode " ++ what ++ ": " ++ wrongForm.text, pointer } wrongForm

/-- What is reported of a description that gives no draft. -/
def toFault : DraftFailure → Fault
  | version u => u.toFault
  | malformed .v2 => malformedFault "swagger 2 document" ""
  | malformed .v3 => malformedFault "openapi 3 document" ""
  | malformedTarget target => malformedFault target target
  | unresolved u => .report u.toReport
  | emptyContent pointer =>
      .abort ("the parameter at " ++ pointer ++ " has content without a media type")
  | absentModel pointer => .abort ("there is no model at " ++ pointer)

end DraftFailure

/-- A model that is read without a test for whether it is there. -/
def Model.present (pointer : String) (m : Model) : Except DraftFailure Model :=
  if m.isAbsent then .error (.absentModel pointer) else .ok m

/-- A parameter with its model, which gives the default value. -/
def Parameter.withModel (pointer : String) (p : Parameter) (m : Model) :
    Except DraftFailure Parameter := do
  let model ← m.present pointer
  return { p with model, default := model.traits.default }

/-- Finds and reads what a reference refers to, with the reference at the end of the chain. -/
def Value.readTarget {α : Type} (doc : Value) (kind : ObjectKind) (read : Dict Value → α)
    (referrer target : String) : Except DraftFailure (α × String) :=
  match doc.dereference referrer target with
  | .error u => .error (.unresolved u)
  | .ok (last, v) =>
      if v.isA kind then .ok (read v.entries, last) else .error (.malformedTarget last)

end TypedClient
