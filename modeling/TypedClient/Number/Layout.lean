import TypedClient.Number.Shortest

/-!
# Number texts

How the shortest digits of a double are laid out. A `Layout` says from which powers of ten on an
exponent is written and how many digits it has at least. Three layouts are in use: `plain` never
shows an exponent, `general` is that of values inside a message or a name, and `interchange` is
that of JSON.
-/

namespace TypedClient

/-- Where a layout changes from positions to an exponent, and how wide the exponent is. -/
structure Layout where
  /-- The positional range: the power of ten of the first digit is in `[lowest, beyond)`; with
  `none` every number is written by position. -/
  positional : Option (Int × Int)
  /-- The least number of digits of an exponent. -/
  exponentWidth : Nat
deriving DecidableEq, Repr

namespace Layout

/-- Every number by position. -/
def plain : Layout := ⟨none, 2⟩

/-- An exponent of two digits or more below a ten thousandth and from a million on. -/
def general : Layout := ⟨some (-4, 6), 2⟩

/-- An exponent without leading zeros below a millionth and from `10 ^ 21` on. -/
def interchange : Layout := ⟨some (-6, 21), 1⟩

/-- The digits of a decimal with the point after the first `lead` of them; `lead` may be negative
or lie behind the last digit. -/
def byPosition (digits : List Char) (lead : Int) : List Char :=
  if lead ≤ 0 then '0' :: '.' :: (List.replicate (-lead).toNat '0' ++ digits)
  else if lead.toNat ≥ digits.length then
    digits ++ List.replicate (lead.toNat - digits.length) '0'
  else digits.take lead.toNat ++ '.' :: digits.drop lead.toNat

/-- The digits of a decimal with the point after the first, and the power of ten of that digit. -/
def byExponent (width : Nat) (digits : List Char) (power : Int) : List Char :=
  let exponent := Nat.toDigits 10 power.natAbs
  let fraction := match digits.drop 1 with
    | [] => []
    | rest => '.' :: rest
  digits.take 1 ++ fraction ++ 'e' :: (if power < 0 then '-' else '+') ::
    (List.replicate (width - exponent.length) '0' ++ exponent)

/-- The text of a non-negative decimal. -/
def decimal (l : Layout) (d : Decimal) : List Char :=
  if d.digits = 0 then ['0']
  else
    let digits := Nat.toDigits 10 d.digits
    let lead := d.exponent + digits.length
    match l.positional with
    | none => byPosition digits lead
    | some (lowest, beyond) =>
        if lowest ≤ lead - 1 ∧ lead - 1 < beyond then byPosition digits lead
        else byExponent l.exponentWidth digits (lead - 1)

/-- The text of a double. -/
def number (l : Layout) (x : Binary64) : String :=
  if x.isNaN then "NaN"
  else if x.isFinite then
    String.ofList ((if x.isNegative then ['-'] else []) ++ l.decimal x.shortest)
  else if x.isNegative then "-Inf" else "+Inf"

end Layout

end TypedClient
