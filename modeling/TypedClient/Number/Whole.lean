import TypedClient.Number.Word

/-!
# Whole numbers as text

A whole number is written in base ten, or behind a mark in base two, eight or sixteen; a zero in
front of further digits means base eight. Where underscores are allowed, each of them stands
between two digits.
-/

namespace TypedClient.Whole

/-- The value of a digit in a base up to sixteen. -/
def digit? (base : Nat) (c : Char) : Option Nat :=
  let d? :=
    if c.isDigit then some (c.toNat - '0'.toNat)
    else if 'a' ≤ c ∧ c ≤ 'f' then some (c.toNat - 'a'.toNat + 10)
    else if 'A' ≤ c ∧ c ≤ 'F' then some (c.toNat - 'A'.toNat + 10)
    else none
  d?.filter (· < base)

/-- The number that digits of a base stand for; there must be at least one. -/
def natural? (base : Nat) (s : List Char) : Option Nat :=
  if s.isEmpty then none
  else s.foldlM (fun n c => (digit? base c).map (base * n + ·)) 0

/-- The base that the start of a number gives away, and the digits behind that start. -/
def splitBase : List Char → Nat × List Char
  | '0' :: mark :: rest =>
      if mark = 'x' ∨ mark = 'X' then (16, rest)
      else if mark = 'o' ∨ mark = 'O' then (8, rest)
      else if mark = 'b' ∨ mark = 'B' then (2, rest)
      else (8, mark :: rest)
  | s => (10, s)

/-- The sign of a number text, and the text behind it. -/
def splitSign : List Char → Bool × List Char
  | '-' :: rest => (true, rest)
  | '+' :: rest => (false, rest)
  | s => (false, s)

/-- Why a text is no whole number. -/
inductive Failure where
  /-- The text is not written like a whole number. -/
  | malformed
  /-- The number does not fit 64 bits with a sign. -/
  | outOfRange
deriving DecidableEq, Repr

/-- The words for a failure. -/
def Failure.text : Failure → String
  | malformed => "invalid syntax"
  | outOfRange => "value out of range"

/-- The number that digits and underscores stand for behind the digits of `n`. The first digit
that carries the number beyond 64 bits ends the reading. -/
def readDigits (base : Nat) : (n : Nat) → List Char → Except Failure Nat
  | n, [] => .ok n
  | n, c :: rest =>
      if c = '_' then readDigits base n rest
      else match digit? base c with
        | none => .error .malformed
        | some d =>
            if base * n + d < Word.bound then readDigits base (base * n + d) rest
            else .error .outOfRange

/-- Whether every underscore stands between two digits and the last character is a digit. -/
def separatesDigits : (digitBefore : Bool) → List Char → Bool
  | before, [] => before
  | before, c :: rest =>
      if c = '_' then before && separatesDigits false rest else separatesDigits true rest

/-- The whole number that a text stands for. A mark in front of the digits counts as a digit for
the underscore behind it. -/
def ofText (s : String) : Except Failure Int := do
  let (negative, unsigned) := splitSign s.toList
  let (base, digits) := splitBase unsigned
  if digits.isEmpty then throw .malformed
  let n ← readDigits base 0 digits
  if !separatesDigits (base ≠ 10) digits then throw .malformed
  if negative then
    if n ≤ Word.signedBound then return -(n : Int) else throw .outOfRange
  else
    if n < Word.signedBound then return n else throw .outOfRange

end TypedClient.Whole
