import TypedClient.Document.Pointer
import TypedClient.Operation

/-!
# Response statuses and results

A response is declared under a status: a number, a range such as `4XX`, or `default`. The results
of an operation are at most one success and the failures behind it. The success is the lowest
number from 200 to 299, else the range `2XX`, else the default.
-/

namespace TypedClient

/-- What a status text means. -/
inductive Status where
  /-- Nothing. -/
  | invalid
  /-- One number. -/
  | explicit (code : Int)
  /-- A hundred numbers, by the first. -/
  | range (first : Int)
  /-- Every number that is not declared otherwise. -/
  | default
deriving DecidableEq, Repr

namespace Status

/-- The range that a text such as `4XX` stands for. -/
def range? : List Char → Option Int
  | [d, a, b] =>
      if '1' ≤ d ∧ d ≤ '5' ∧ a.toLower = 'x' ∧ b.toLower = 'x' then
        some (((d.toNat : Int) - '0'.toNat) * 100)
      else none
  | _ => none

/-- The meaning of a status text. -/
def ofText (s : String) : Status :=
  let s := Text.trim s
  if Text.sameLetters s "default" then default
  else match range? s.toList with
    | some first => range first
    | none => match Pointer.index? s with
      | some code => if 100 ≤ code ∧ code ≤ 599 then explicit code else invalid
      | none => invalid

/-- The number of an explicit status, zero for all others. -/
def code : Status → Int
  | explicit code => code
  | _ => 0

/-- The number of a status that stands for success by itself. -/
def successCode? : Status → Option Int
  | explicit code => if 200 ≤ code ∧ code < 300 then some code else none
  | _ => none

/-- Whether a response of the status is a failure when it is not the success. -/
def isFailure : Status → Bool
  | explicit code => 300 ≤ code
  | range first => 300 ≤ first
  | default => true
  | invalid => false

end Status

/-- A declared response. -/
structure Response where
  /-- The status as the description writes it. -/
  status : String := ""
  /-- What it means. -/
  description : String := ""
  /-- How the body is written. -/
  mediaType : String := ""
  /-- The model of the body, if there is one. -/
  model : Model := .absent
deriving Inhabited

namespace Response

/-- The meaning of the status. -/
def meaning (r : Response) : Status :=
  Status.ofText r.status

/-- The result that a response is. -/
def toResult (r : Response) (statusClass : StatusClass) : Result where
  status := r.status
  code := r.meaning.code
  statusClass
  description := r.description
  mediaType := r.mediaType
  model := r.model

/-- The first response with the least successful number, with its position. -/
def lowest? : List (Nat × Response) → Option (Nat × Int)
  | [] => none
  | (i, r) :: rest =>
      match r.meaning.successCode?, lowest? rest with
      | some code, some (j, other) => if other < code then some (j, other) else some (i, code)
      | some code, none => some (i, code)
      | none, found => found

/-- The position of the success among responses in status order. -/
def successPosition? (responses : List (Nat × Response)) : Option Nat :=
  ((lowest? responses).map Prod.fst).or
    (((responses.find? (fun (_, r) => r.meaning = .range 200)).map Prod.fst).or
      ((responses.reverse.find? (fun (_, r) => r.meaning = .default)).map Prod.fst))

/-- The results of the declared responses. -/
def results (responses : List Response) : List Result :=
  let sorted := responses.mergeSort (fun a b => Text.le a.status b.status)
  let numbered := (List.range sorted.length).zip sorted
  let success := successPosition? numbered
  let first := numbered.filter (fun (i, _) => success = some i)
  let others := numbered.filter (fun (i, r) => success ≠ some i && r.meaning.isFailure)
  first.map (fun (_, r) => r.toResult .success) ++
    others.map (fun (_, r) => r.toResult .failure)

end Response

end TypedClient
