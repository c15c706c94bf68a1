import TypedClient.Number.Word
import TypedClient.Source.Address
import TypedClient.Text.Quoted

/-!
# Fetching an address

A request that fails for a passing reason is made again, a limited number of times. Passing
reasons are failures of the transport, the status 429 and statuses from 500 on. What the network
answers is given as a sequence of replies, one for each request.
-/

namespace TypedClient.Fetch

/-- The outcome of one request. -/
inductive Reply where
  /-- A response with its status and its body. -/
  | response (status : Int) (body : String)
  /-- A failure of the transport. -/
  | failure (reason : String)
deriving DecidableEq, Repr

/-- What an outcome means for the download. -/
inductive Verdict where
  /-- The download is done. -/
  | done (body : String)
  /-- The download has failed for good. -/
  | refused (reason : String)
  /-- The request can be made again. -/
  | passing (reason : String)
deriving DecidableEq, Repr

/-- The longest start of a text with at most `limit` bytes. -/
def takeBytes (limit : Nat) : List Char → List Char
  | [] => []
  | c :: rest => if c.utf8Size ≤ limit then c :: takeBytes (limit - c.utf8Size) rest else []

/-- What is shown of the body of a refusal. -/
def shownBody (body : String) : String :=
  Text.trim (String.ofList (takeBytes 1024 body.toList))

/-- What an outcome means; `shown` is the address as messages show it. -/
def Reply.verdict (shown : String) : Reply → Verdict
  | failure reason => .passing ("Get " ++ Text.quote shown ++ ": " ++ reason)
  | response status body =>
      if status < 300 then .done body
      else if status ≥ 500 || status = 429 then
        .passing ("transient http error " ++ toString status)
      else .refused ("http " ++ toString status ++ ": " ++ shownBody body)

/-- The outcome of a download, with the number of requests and of warnings about a repetition. -/
structure Download where
  /-- The body, or the reason of the failure. -/
  result : Except String String
  /-- The requests made. -/
  requests : Nat
  /-- The warnings given. -/
  warnings : Nat

/-- Makes at most `more + 1` requests; `n` were made before. A run that was called off makes none
again. -/
def attempt (cancelled : Bool) (shown : String) (replies : Nat → Reply) :
    (n more : Nat) → Download
  | n, more =>
      match (replies n).verdict shown with
      | .done body => ⟨.ok body, 1, 0⟩
      | .refused reason => ⟨.error reason, 1, 0⟩
      | .passing reason =>
          match more with
          | 0 => ⟨.error reason, 1, 0⟩
          | more + 1 =>
              if cancelled then ⟨.error "context canceled", 1, 1⟩
              else
                let rest := attempt cancelled shown replies (n + 1) more
                ⟨rest.result, rest.requests + 1, rest.warnings + 1⟩

/-- How often a request may be made again. One request more has to be countable in 64 bits with a
sign; otherwise nothing is repeated. -/
def repetitions (maxRetries : Int) : Nat :=
  if maxRetries + 1 < Word.signedBound then maxRetries.toNat else 0

/-- Downloads an address with at most `maxRetries` repetitions. -/
def download (cancelled : Bool) (maxRetries : Int) (a : Address) (replies : Nat → Reply) :
    Download :=
  attempt cancelled a.text replies 0 (repetitions maxRetries)

end TypedClient.Fetch
