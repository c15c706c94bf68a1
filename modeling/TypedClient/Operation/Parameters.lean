import TypedClient.Operation

/-!
# Parameters of a path and of an operation

An operation takes the parameters of its path and its own. One of its own replaces one of the path
with the same location and name. A path parameter is always required, and required parameters
come first.
-/

namespace TypedClient.Parameter

/-- What tells parameters apart: where they travel and their name. -/
def key (p : Parameter) : String :=
  p.location.label ++ ":" ++ p.name

/-- Puts a parameter in the place of the last one with its key, if there is one. -/
def replaceLast? (p : Parameter) : List Parameter → Option (List Parameter)
  | [] => none
  | q :: rest =>
      match replaceLast? p rest with
      | some replaced => some (q :: replaced)
      | none => if q.key = p.key then some (p :: rest) else none

/-- Puts a parameter in the place of the last one with its key, or at the end. -/
def place (parameters : List Parameter) (p : Parameter) : List Parameter :=
  (replaceLast? p parameters).getD (parameters ++ [p])

/-- A parameter that is required when it is part of the path. -/
def settle (p : Parameter) : Parameter :=
  if p.location = .path then { p with required := true } else p

/-- The required parameters, then the others. -/
def requiredFirst (parameters : List Parameter) : List Parameter :=
  parameters.filter (·.required) ++ parameters.filter (fun p => !p.required)

/-- The parameters of an operation: those of the path, with its own in place of those they replace
and behind them. -/
def merge (ofPath own : List Parameter) : List Parameter :=
  requiredFirst ((own.foldl place ofPath).map settle)

end TypedClient.Parameter
