import TypedClient.Operation

/-!
# Drafts and clients

A draft is what is known of an interface while names and references are still being settled. A
client is the finished account, sorted by name, that the generated code is written from.
-/

namespace TypedClient

/-- The schema of a model as the description writes it. -/
structure RawSchema where
  /-- The exported name of the model. -/
  name : String := ""
  /-- Where the schema stands in the description. -/
  pointer : String := ""
  /-- The schema itself. -/
  raw : Value := .null
deriving Inhabited

/-- What is known of an interface. The named models come before the anonymous ones. -/
structure Draft where
  /-- The version of the interface. -/
  version : String := ""
  /-- The address of the server. -/
  server : String := ""
  /-- The models. -/
  models : List Model := []
  /-- The services. -/
  services : List Service := []
  /-- The schemas of the named models. -/
  schemas : List RawSchema := []
deriving Inhabited

/-- The finished account of an interface. -/
structure Client where
  /-- The version of the interface. -/
  version : String := ""
  /-- The address of the server. -/
  server : String := ""
  /-- The models, ascending by name. -/
  models : List Model := []
  /-- The services, ascending by name. -/
  services : List Service := []
  /-- The schemas, ascending by name. -/
  schemas : List RawSchema := []
deriving Inhabited

namespace Draft

/-- The operations of all services, service by service. -/
def operations (d : Draft) : List Operation :=
  d.services.flatMap Service.operations

/-- The reference nodes of a draft: those of the models, then those of the operations. -/
def referenceNodes (d : Draft) : List Traits :=
  d.models.flatMap Model.referenceNodes ++ d.services.flatMap Service.referenceNodes

/-- A draft with every operation changed by `f`. -/
def mapOperations (f : Operation → Operation) (d : Draft) : Draft :=
  { d with services := d.services.map (fun s =>
      { s with operations := s.operations.map f }) }

/-- A draft with every model, and every model inside an operation, changed by `f`. -/
def mapModels (f : Model → Model) (d : Draft) : Draft :=
  { d.mapOperations (Operation.mapModels f) with models := d.models.map f }

end Draft

end TypedClient
