import TypedClient.Model.Basic

/-!
# Operations

An operation is one call that an interface offers: a method on a path, with its parameters and
its possible results. A service collects the operations of one tag.
-/

namespace TypedClient

/-- The verb of a request. -/
inductive Method where
  | get
  | put
  | post
  | delete
  | options
  | head
  | patch
  | trace
  | other (label : String)
deriving DecidableEq, Inhabited, Repr

namespace Method

/-- The word for a verb, as a path item writes it. -/
def label : Method → String
  | get => "get"
  | put => "put"
  | post => "post"
  | delete => "delete"
  | options => "options"
  | head => "head"
  | patch => "patch"
  | trace => "trace"
  | other label => label

/-- The verbs with a word of their own, in the order in which a path's operations are listed. -/
def known : List Method :=
  [get, put, post, delete, options, head, patch, trace]

/-- The verb that a word stands for. -/
def ofLabel (word : String) : Method :=
  (known.find? (fun m => m.label = word)).getD (other word)

end Method

/-- Where a parameter travels in a request. -/
inductive Location where
  | path
  | query
  | header
  | cookie
  | body
  | other (label : String)
deriving DecidableEq, Inhabited, Repr

namespace Location

/-- The word for a location. -/
def label : Location → String
  | path => "path"
  | query => "query"
  | header => "header"
  | cookie => "cookie"
  | body => "body"
  | other label => label

/-- The locations with a word of their own. -/
def known : List Location :=
  [path, query, header, cookie, body]

/-- The location that a word stands for. -/
def ofLabel (word : String) : Location :=
  (known.find? (fun l => l.label = word)).getD (other word)

end Location

/-- Whether a result means success. -/
inductive StatusClass where
  | success
  | failure
  | other (label : String)
deriving DecidableEq, Inhabited, Repr

namespace StatusClass

/-- The word for a class of results. -/
def label : StatusClass → String
  | success => "success"
  | failure => "error"
  | other label => label

/-- The class that a word stands for. -/
def ofLabel (word : String) : StatusClass :=
  ([success, failure].find? (fun c => c.label = word)).getD (other word)

end StatusClass

/-- One input of an operation. -/
structure Parameter where
  /-- The name on the wire. -/
  name : String := ""
  /-- The name in the generated code. -/
  exportName : String := ""
  /-- Where it travels. -/
  location : Location := .other ""
  /-- Whether every call gives it. -/
  required : Bool := false
  /-- What it is for. -/
  description : String := ""
  /-- The value of a call that does not give it. -/
  default : Value := .null
  /-- How a body is written. -/
  mediaType : String := ""
  /-- The model of its values. -/
  model : Model := .absent
deriving Inhabited

/-- One outcome of an operation. -/
structure Result where
  /-- The status as the description writes it. -/
  status : String := ""
  /-- The number of an explicit status, zero for a range or the default. -/
  code : Int := 0
  /-- Whether it means success. -/
  statusClass : StatusClass := .other ""
  /-- What it means. -/
  description : String := ""
  /-- How the body is written. -/
  mediaType : String := ""
  /-- The model of the body, if there is one. -/
  model : Model := .absent
deriving Inhabited

/-- One call that an interface offers. -/
structure Operation where
  /-- The identifier in the description. -/
  id : String := ""
  /-- The name in the generated code. -/
  name : String := ""
  /-- The verb. -/
  method : Method := .other ""
  /-- The path, with placeholders between braces. -/
  path : String := ""
  /-- One line on what it does. -/
  summary : String := ""
  /-- What it does. -/
  description : String := ""
  /-- Whether use of it is discouraged. -/
  deprecated : Bool := false
  /-- The first tag. -/
  tag : String := ""
  /-- Its inputs. -/
  parameters : List Parameter := []
  /-- Its outcomes. -/
  results : List Result := []
deriving Inhabited

namespace Operation

/-- The outcome that means success. -/
def success? (op : Operation) : Option Result :=
  op.results.find? (fun r => r.statusClass = .success)

/-- The outcomes that mean failure. -/
def failures (op : Operation) : List Result :=
  op.results.filter (fun r => r.statusClass = .failure)

/-- The models of the parameters and the results. -/
def models (op : Operation) : List Model :=
  op.parameters.map Parameter.model ++ op.results.map Result.model

/-- The reference nodes in the models of an operation, in reading order. -/
def referenceNodes (op : Operation) : List Traits :=
  op.models.flatMap Model.referenceNodes

/-- An operation with every model changed by `f`. -/
def mapModels (f : Model → Model) (op : Operation) : Operation :=
  { op with
    parameters := op.parameters.map (fun p => { p with model := f p.model })
    results := op.results.map (fun r => { r with model := f r.model }) }

end Operation

/-- The operations of one tag. -/
structure Service where
  /-- The name in the generated code. -/
  name : String := ""
  /-- The tag. -/
  tag : String := ""
  /-- The operations. -/
  operations : List Operation := []
  /-- The exported names of the models that the operations refer to. -/
  imports : List String := []
deriving Inhabited

/-- The reference nodes in the operations of a service, in reading order. -/
def Service.referenceNodes (s : Service) : List Traits :=
  s.operations.flatMap Operation.referenceNodes

end TypedClient
