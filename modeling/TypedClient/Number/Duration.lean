import TypedClient.Number.Binary64
import TypedClient.Text.Quoted

/-!
# Durations as text

A duration is a sum of decimal numbers with a unit each, such as `1h15m30.5s`, with a sign in
front of it or none. It is counted in nanoseconds and fits 64 bits with a sign.
-/

namespace TypedClient.Duration

/-- Why a text is no duration. -/
inductive Failure where
  | malformed
  | missingUnit
  | unknownUnit (unit : List Char)
deriving DecidableEq, Repr

/-- A byte of a message: two hexadecimal digits. -/
def quotedByte (b : UInt8) : List Char :=
  '\\' :: 'x' :: Text.Quoted.hex 2 b.toNat

/-- One character of a message: what is not ASCII print is shown byte by byte. -/
def quotedChar (c : Char) : List Char :=
  if c < ' ' ∨ 0x80 ≤ c.toNat then (String.ofList [c]).toUTF8.toList.flatMap quotedByte
  else if c = '"' ∨ c = '\\' then ['\\', c]
  else [c]

/-- A text as messages show it. -/
def quoted (s : List Char) : String :=
  String.ofList ('"' :: s.flatMap quotedChar ++ ['"'])

/-- The words for a failure. -/
def Failure.text (whole : String) : Failure → String
  | malformed => "time: invalid duration " ++ quoted whole.toList
  | missingUnit => "time: missing unit in duration " ++ quoted whole.toList
  | unknownUnit unit =>
      "time: unknown unit " ++ quoted unit ++ " in duration " ++ quoted whole.toList

/-- The units by their nanoseconds. The sign for a millionth is the micro sign or the Greek
letter. -/
def units : List (String × Nat) :=
  [("ns", 1), ("us", 1000), ("µs", 1000), ("μs", 1000), ("ms", 1000000), ("s", 1000000000),
   ("m", 60 * 1000000000), ("h", 3600 * 1000000000)]

/-- The value of a decimal digit. -/
def digitValue (c : Char) : Nat :=
  c.toNat - '0'.toNat

/-- The number that the digits in front of a point stand for, as long as it is no more than
`Word.signedBound`. -/
def wholeOf : (n : Nat) → List Char → Option Nat
  | n, [] => some n
  | n, c :: rest =>
      let next := 10 * n + digitValue c
      if next ≤ Word.signedBound then wholeOf next rest else none

/-- The number that the digits behind a point stand for, and their count. Digits that no longer
fit are left out. -/
def fractionOf : (n count : Nat) → List Char → Nat × Nat
  | n, count, [] => (n, count)
  | n, count, c :: rest =>
      let next := 10 * n + digitValue c
      if n ≤ (Word.signedBound - 1) / 10 ∧ next ≤ Word.signedBound then
        fractionOf next (count + 1) rest
      else (n, count)

/-- The nanoseconds in a fraction of a unit, computed in double precision. -/
def fractionNanoseconds (n count unit : Nat) : Nat :=
  ((Binary64.ofRatio false n 1).mul (Binary64.ofRatio false unit (Nat.pow 10 count))).wholePart

/-- Whether a character belongs to a number and not to a unit. -/
def isNumeric (c : Char) : Bool :=
  c.isDigit || c = '.'

/-- The nanoseconds of one number with its unit. -/
def partNanoseconds (number unit : List Char) : Except Failure Nat := do
  if !number.all isNumeric then throw .malformed
  let whole := number.takeWhile Char.isDigit
  let rest := number.dropWhile Char.isDigit
  let fraction := (rest.drop 1).takeWhile Char.isDigit
  let some n := wholeOf 0 whole | throw .malformed
  if whole.isEmpty && fraction.isEmpty then throw .malformed
  if unit.isEmpty || !(rest.drop (fraction.length + 1)).isEmpty then throw .missingUnit
  let some size := units.lookup (String.ofList unit) | throw (.unknownUnit unit)
  if n > Word.signedBound / size then throw .malformed
  let (f, count) := fractionOf 0 0 fraction
  let total := n * size + (if f = 0 then 0 else fractionNanoseconds f count size)
  if total > Word.signedBound then throw .malformed
  return total

/-- The nanoseconds of numbers and units in turn. Sums are kept in 64 bits. -/
def sum : (total : Nat) → List (List Char) → Except Failure Nat
  | total, [] => .ok total
  | _, [number] => partNanoseconds number []
  | total, number :: unit :: rest => do
      let part ← partNanoseconds number unit
      let next := (total + part) % Word.bound
      if next > Word.signedBound then throw .malformed
      sum next rest

/-- The nanoseconds of a text without its sign. -/
def ofUnsigned (s : List Char) : Except Failure Nat :=
  if s = ['0'] then .ok 0
  else if s.isEmpty then .error .malformed
  else sum 0 (s.splitBy (fun a b => isNumeric a == isNumeric b))

/-- The nanoseconds of a duration, or the words for why the text is none. -/
def ofText (s : String) : Except String Int :=
  let signed : Except Failure Int := match s.toList with
    | '-' :: rest => (ofUnsigned rest).map (fun n => -(n : Int))
    | '+' :: rest => bounded rest
    | rest => bounded rest
  signed.mapError (Failure.text s)
where
  /-- A duration without a minus sign is less than `Word.signedBound` nanoseconds. -/
  bounded (s : List Char) : Except Failure Int := do
    let n ← ofUnsigned s
    if n < Word.signedBound then return n else throw .malformed

end TypedClient.Duration
