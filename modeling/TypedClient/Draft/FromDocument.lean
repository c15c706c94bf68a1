import TypedClient.Document.BodyMerge
import TypedClient.Draft.FromV2
import TypedClient.Draft.FromV3
import TypedClient.Draft.Lift

/-!
# The draft of a document

The named schemas of a description become the named models of the draft, in key order, and its
operations become services. Models inside operations follow the named ones.
-/

namespace TypedClient.Draft

/-- The model of a named schema, which takes the name, and the raw schema. -/
def ofSchema (doc : Value) (path : List String) (name : String) (s : Schema) :
    Except DraftFailure (Model × RawSchema) := do
  let pointer := Pointer.join (path ++ [name])
  let model ← (Model.ofSchema doc pointer s).present pointer
  return (model.modify (fun t => { t with sourceName := name }),
    { pointer, raw := (Pointer.lookup? doc pointer).getD .null })

/-- The model and the raw schema of each named schema. -/
def ofSchemas (doc : Value) (path : List String) (schemas : Dict Schema) :
    Except DraftFailure (List (Model × RawSchema)) :=
  (Dict.withoutExtensions schemas).mapM (fun (name, s) => ofSchema doc path name s)

/-- Puts a draft together. Models are lifted out of the parameters that satisfy `early` before
those of the others. -/
def assemble (version server : String) (named : List (Model × RawSchema))
    (early : Parameter → Bool) (operations : List Operation) : Draft :=
  let (operations, anonymous) := Operation.liftAll early [] operations
  { version, server
    models := named.map Prod.fst ++ anonymous
    services := Service.ofOperations operations
    schemas := named.map Prod.snd }

/-- The draft of a version 2 document in normal form. -/
def ofV2 (filter : TagFilter) (doc : Value) : Except DraftFailure Draft := do
  let mended := BodyMerge.mend doc
  if !mended.isA .document2 then throw (.malformed .v2)
  let t := V2.Document.ofEntries mended.entries
  let named ← ofSchemas mended ["definitions"] t.definitions
  let operations ← t.operations mended filter
  return assemble doc.interfaceVersion t.server named (fun _ => true) operations

/-- The draft of a version 3 document in normal form. -/
def ofV3 (filter : TagFilter) (doc : Value) : Except DraftFailure Draft := do
  if !doc.isA .document then throw (.malformed .v3)
  let t := V3.Document.ofEntries doc.entries
  let named ← ofSchemas doc ["components", "schemas"] t.schemas
  let operations ← t.operations doc filter
  return assemble doc.interfaceVersion t.server named (fun p => p.location != .body) operations

/-- The draft of a document, with the operations that a filter allows. -/
def ofDocument (filter : TagFilter) (doc : Value) : Except DraftFailure Draft :=
  match Version.detect doc with
  | .error u => .error (.version u)
  | .ok .v2 => ofV2 filter doc.normalize
  | .ok .v3 => ofV3 filter doc.normalize

end TypedClient.Draft
