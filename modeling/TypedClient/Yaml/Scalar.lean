import TypedClient.Number.Binary64
import TypedClient.Number.Whole
import TypedClient.Yaml.Timestamp

/-!
# What a scalar stands for

A scalar without a tag is null, a Boolean, a number, a timestamp or a text by its spelling. Whole
numbers may be written in base two, eight, ten or sixteen and with underscores.
-/

namespace TypedClient.Yaml

open Whole (natural? splitBase splitSign)

/-- The value of a scalar. -/
inductive Scalar where
  | null
  | bool (b : Bool)
  | int (n : Int)
  | uint (n : Nat)
  | float (x : Binary64)
  | time (t : Timestamp)
  | text (s : String)
deriving DecidableEq, Repr

namespace Scalar

/-- The spellings that stand for one value each. -/
def constants : List (String × Scalar) :=
  [("true", .bool true), ("True", .bool true), ("TRUE", .bool true),
   ("false", .bool false), ("False", .bool false), ("FALSE", .bool false),
   ("", .null), ("~", .null), ("null", .null), ("Null", .null), ("NULL", .null),
   (".nan", .float .nan), (".NaN", .float .nan), (".NAN", .float .nan),
   (".inf", .float (.infinity false)), (".Inf", .float (.infinity false)),
   (".INF", .float (.infinity false)), ("+.inf", .float (.infinity false)),
   ("+.Inf", .float (.infinity false)), ("+.INF", .float (.infinity false)),
   ("-.inf", .float (.infinity true)), ("-.Inf", .float (.infinity true)),
   ("-.INF", .float (.infinity true))]

/-- A whole number that fits 64 bits with a sign. -/
def int? (negative : Bool) (n : Nat) : Option Scalar :=
  if negative then if n ≤ Word.signedBound then some (.int (-n)) else none
  else if n < Word.signedBound then some (.int n) else none

/-- A whole number in the base that its start gives away, with or without a sign. -/
def signed? (s : List Char) : Option Scalar := do
  let (negative, digits) := splitSign s
  let (base, digits) := splitBase digits
  int? negative (← natural? base digits)

/-- A whole number without a sign that fits 64 bits. -/
def unsigned? (s : List Char) : Option Scalar := do
  let (base, digits) := splitBase s
  let n ← natural? base digits
  if n < Word.bound then some (.uint n) else none

/-- A whole number in a given base behind a mark of two characters. The sign may stand behind the
mark. -/
def marked? (base : Nat) (s : List Char) : Option Scalar := do
  let (negative, digits) := splitSign s
  int? negative (← natural? base digits)

/-- A decimal number: digits with at most one point and an optional exponent. The flag says
whether it must start with digits. -/
def decimal? (s : List Char) : Option Scalar := do
  let (negative, s) := splitSign s
  let whole := s.takeWhile Char.isDigit
  let s := s.drop whole.length
  let (fraction, s) := match s with
    | '.' :: rest => (rest.takeWhile Char.isDigit, rest.dropWhile Char.isDigit)
    | _ => ([], s)
  if whole.isEmpty ∧ fraction.isEmpty then none
  let exponent : Int ← match s with
    | [] => some 0
    | e :: rest =>
        if e = 'e' ∨ e = 'E' then do
          let (down, digits) := splitSign rest
          let n ← natural? 10 digits
          some (if down then -(n : Int) else n)
        else none
  let digits ← natural? 10 (whole ++ fraction)
  let x := Binary64.ofDecimal negative digits (exponent - fraction.length)
  if x.isFinite then some (.float x) else none

/-- Whether every underscore stands between two digits. -/
def separatesDigits : (digitBefore : Bool) → List Char → Bool
  | before, '_' :: rest => before && rest.head?.any Char.isDigit && separatesDigits false rest
  | _, c :: rest => separatesDigits c.isDigit rest
  | _, [] => true

/-- A number or a timestamp that starts with a digit or a sign. -/
def number? (timed : Bool) (s : String) : Option Scalar :=
  let plain := s.toList.filter (· != '_')
  let late : Option Scalar := match plain with
    | '0' :: 'b' :: rest => marked? 2 rest
    | '-' :: '0' :: 'b' :: rest => marked? 2 ('-' :: rest)
    | '0' :: 'o' :: rest => marked? 8 rest
    | '-' :: '0' :: 'o' :: rest => marked? 8 ('-' :: rest)
    | _ => none
  (if timed then (Timestamp.ofText? s).map .time else none)
    <|> signed? plain <|> unsigned? plain <|> decimal? plain <|> late

/-- The value of an unquoted spelling. With `timed` it may be a timestamp. -/
def ofPlain (timed : Bool) (s : String) : Scalar :=
  match constants.lookup s with
  | some v => v
  | none =>
      match s.toList with
      | c :: _ =>
          if c = '.' then
            let plain := s.toList.filter (· != '_')
            if separatesDigits false s.toList then (decimal? plain).getD (.text s) else .text s
          else if c.isDigit ∨ c = '+' ∨ c = '-' then (number? timed s).getD (.text s)
          else .text s
      | [] => .null

/-- The short tag of a value. -/
def tag : Scalar → String
  | .null => "!!null"
  | .bool _ => "!!bool"
  | .int _ => "!!int"
  | .uint _ => "!!int"
  | .float _ => "!!float"
  | .time _ => "!!timestamp"
  | .text _ => "!!str"

/-- The value of a character in base 64. -/
def sextet? (c : Char) : Option Nat :=
  if 'A' ≤ c ∧ c ≤ 'Z' then some (c.toNat - 'A'.toNat)
  else if 'a' ≤ c ∧ c ≤ 'z' then some (c.toNat - 'a'.toNat + 26)
  else if c.isDigit then some (c.toNat - '0'.toNat + 52)
  else if c = '+' then some 62
  else if c = '/' then some 63
  else none

/-- The bytes of a text in base 64, in groups of four characters with padding in the last. -/
def bytes? : List Char → Option (List UInt8)
  | [] => some []
  | [a, b, '=', '='] => do
      let n := (← sextet? a) * 64 + (← sextet? b)
      some [UInt8.ofNat (n / 16)]
  | [a, b, c, '='] => do
      let n := ((← sextet? a) * 64 + (← sextet? b)) * 64 + (← sextet? c)
      some [UInt8.ofNat (n / 1024), UInt8.ofNat (n / 4 % 256)]
  | a :: b :: c :: d :: rest => do
      let n := (((← sextet? a) * 64 + (← sextet? b)) * 64 + (← sextet? c)) * 64 + (← sextet? d)
      let more ← bytes? rest
      some (UInt8.ofNat (n / 65536) :: UInt8.ofNat (n / 256 % 256) :: UInt8.ofNat (n % 256) :: more)
  | _ => none

/-- The text of a scalar in base 64; line breaks in it have no meaning. -/
def ofBase64? (s : String) : Option Scalar := do
  let bytes ← bytes? (s.toList.filter (fun c => c != '\n' && c != '\r'))
  (String.fromUTF8? ⟨bytes.toArray⟩).map .text

/-- The value of a scalar that carries a tag, if the tag admits it. A tag of another vocabulary
leaves the text as it is. -/
def ofTagged? (tag s : String) : Option Scalar :=
  if tag = "!!str" then some (.text s)
  else if tag = "!!binary" then ofBase64? s
  else if ["!!bool", "!!int", "!!float", "!!null", "!!timestamp"].contains tag then
    let v := ofPlain (tag = "!!timestamp") s
    if v.tag = tag then some v
    else match tag, v with
      | "!!float", .int n => some (.float (Binary64.ofInt n))
      | _, _ => none
  else some (.text s)

end Scalar

end TypedClient.Yaml
