import TypedClient.Draft
import TypedClient.Text.Basic

/-!
# Lifting models out of operations

Operations refer to their object, enum and composed types by reference. A model of such a type
that stands inside an operation becomes an anonymous model of the draft, once for each pointer,
with a name made up from the operation.
-/

namespace TypedClient

namespace Model

/-- Whether a model needs a declaration of its own. -/
def isDeclared (m : Model) : Bool :=
  m.kind = .interface || m.kind = .enum || m.kind.isComposition

/-- Replaces a model that needs a declaration by a reference, and adds it to the anonymous models
unless one with its pointer is there. Arrays and dictionaries are searched for such models. -/
def lift (anonymous : List Model) (sourceName : String) : Model → Model × List Model
  | absent => (.absent, anonymous)
  | node t ps i ms =>
      let self := Model.node t ps i ms
      if self.isDeclared then
        let found := anonymous.any (fun m => m.pointer = t.pointer)
        let own := Model.node { t with anonymous := true, sourceName } ps i ms
        (referenceTo t.pointer t.pointer, if found then anonymous else anonymous ++ [own])
      else
        match t.kind with
        | .array =>
            let (i, anonymous) := i.lift anonymous (sourceName ++ "Item")
            (.node t ps i ms, anonymous)
        | .dictionary =>
            let (i, anonymous) := i.lift anonymous (sourceName ++ "Value")
            (.node t ps i ms, anonymous)
        | _ => (self, anonymous)

end Model

namespace Operation

/-- What the names of the anonymous models of an operation start with. -/
def sourceName (op : Operation) : String :=
  if Text.trim op.id = "" then op.method.label ++ " " ++ op.path else op.id

/-- Lifts models out of the parameters that satisfy `chosen`. -/
def liftParameters (chosen : Parameter → Bool) (sourceName : String) (anonymous : List Model) :
    List Parameter → List Parameter × List Model
  | [] => ([], anonymous)
  | p :: rest =>
      let suffix := if p.location = .body then "Request" else p.name
      let (model, anonymous) := if chosen p then
          p.model.lift anonymous (sourceName ++ " " ++ suffix)
        else (p.model, anonymous)
      let (rest, anonymous) := liftParameters chosen sourceName anonymous rest
      ({ p with model } :: rest, anonymous)

/-- Lifts models out of the results. -/
def liftResults (sourceName : String) (anonymous : List Model) :
    List Result → List Result × List Model
  | [] => ([], anonymous)
  | r :: rest =>
      let suffix := if r.statusClass = .failure then "Error " ++ r.status else "Response"
      let (model, anonymous) := r.model.lift anonymous (sourceName ++ " " ++ suffix)
      let (rest, anonymous) := liftResults sourceName anonymous rest
      ({ r with model } :: rest, anonymous)

/-- Lifts models out of an operation: first out of the parameters, those that satisfy `early`
before the others, and then out of the results. -/
def lift (early : Parameter → Bool) (anonymous : List Model) (op : Operation) :
    Operation × List Model :=
  let name := op.sourceName
  let (parameters, anonymous) := liftParameters early name anonymous op.parameters
  let (parameters, anonymous) := liftParameters (fun p => !early p) name anonymous parameters
  let (results, anonymous) := liftResults name anonymous op.results
  ({ op with parameters, results }, anonymous)

/-- Lifts models out of operations in turn. -/
def liftAll (early : Parameter → Bool) (anonymous : List Model) :
    List Operation → List Operation × List Model
  | [] => ([], anonymous)
  | op :: rest =>
      let (op, anonymous) := op.lift early anonymous
      let (rest, anonymous) := liftAll early anonymous rest
      (op :: rest, anonymous)

end Operation

end TypedClient
