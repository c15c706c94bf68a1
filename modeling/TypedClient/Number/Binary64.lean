import TypedClient.Number.Word

/-!
# Double precision numbers

A double precision number is held as its 64 bits. A finite one is `± mantissa · 2 ^ exponent`
with a mantissa below `2 ^ 53`, and every operation here works on these whole numbers, so no
rounding happens except where a decimal is turned into the nearest double.
-/

namespace TypedClient

/-- A double precision number by its bit pattern. -/
structure Binary64 where
  /-- One sign bit, eleven exponent bits and fifty-two fraction bits. -/
  bits : UInt64
deriving DecidableEq, Repr

namespace Binary64

instance : Inhabited Binary64 := ⟨⟨0⟩⟩

/-- The bits below the sign. -/
def magnitude (x : Binary64) : Nat :=
  x.bits.toNat % Word.signedBound

/-- Whether the sign bit is set; also true of negative zero. -/
def isNegative (x : Binary64) : Bool :=
  Word.signedBound ≤ x.bits.toNat

/-- The least magnitude that is no finite number. -/
def infiniteMagnitude : Nat := 0x7FF0000000000000

/-- Whether the number is neither infinite nor a NaN. -/
def isFinite (x : Binary64) : Bool :=
  x.magnitude < infiniteMagnitude

/-- Whether the bits stand for no number. -/
def isNaN (x : Binary64) : Bool :=
  infiniteMagnitude < x.magnitude

/-- The number with the given sign and magnitude bits. -/
def ofMagnitude (negative : Bool) (magnitude : Nat) : Binary64 :=
  ⟨UInt64.ofNat (magnitude + if negative then Word.signedBound else 0)⟩

/-- Zero with a sign. -/
def zero (negative : Bool) : Binary64 := ofMagnitude negative 0

/-- Infinity with a sign. -/
def infinity (negative : Bool) : Binary64 := ofMagnitude negative infiniteMagnitude

/-- The quiet NaN. -/
def nan : Binary64 := ofMagnitude false 0x7FF8000000000001

/-- `2 ^ 52`, the bit of the mantissa that the bit pattern leaves out. -/
def hiddenBit : Nat := 0x10000000000000

/-- The whole mantissa of a finite number. -/
def mantissa (x : Binary64) : Nat :=
  if x.magnitude < hiddenBit then x.magnitude else x.magnitude % hiddenBit + hiddenBit

/-- The power of two that the mantissa counts. -/
def exponent (x : Binary64) : Int :=
  if x.magnitude < hiddenBit then -1074 else (x.magnitude / hiddenBit : Nat) - 1075

/-- The quotient rounded to the nearest whole number, a half to the even neighbour. -/
def roundDiv (num den : Nat) : Nat :=
  let quotient := num / den
  let twice := 2 * (num % den)
  if twice > den ∨ (twice = den ∧ quotient % 2 = 1) then quotient + 1 else quotient

/-- `num / den` multiplied by `2 ^ (- exponent)`, rounded to a whole number. -/
def scaledDiv (num den : Nat) (exponent : Int) : Nat :=
  match exponent with
  | .ofNat e => roundDiv num (den * Nat.pow 2 e)
  | .negSucc e => roundDiv (num * Nat.pow 2 (e + 1)) den

/-- The double nearest to `num / den`, a half to the even neighbour. A mantissa that rounds up to
the next power of two carries into the exponent bits, so one sum covers every case. -/
def ofRatio (negative : Bool) (num den : Nat) : Binary64 :=
  if num = 0 then zero negative
  else
    let guess : Int := (Nat.log2 num : Int) - (Nat.log2 den : Int) - 52
    let short : Bool := match guess with
      | .ofNat e => num < hiddenBit * (den * Nat.pow 2 e)
      | .negSucc e => num * Nat.pow 2 (e + 1) < hiddenBit * den
    let exponent : Int := max (if short then guess - 1 else guess) (-1074)
    let bits := (exponent + 1074).toNat * hiddenBit + scaledDiv num den exponent
    ofMagnitude negative (min bits infiniteMagnitude)

/-- The double nearest to `digits · 10 ^ exponent`. Far outside the range of doubles the answer is
known without computing the power. -/
def ofDecimal (negative : Bool) (digits : Nat) (exponent : Int) : Binary64 :=
  if digits = 0 then zero negative
  else if exponent > 400 then infinity negative
  else if exponent + (Nat.log2 digits / 3 + 2 : Nat) < -400 then zero negative
  else match exponent with
    | .ofNat e => ofRatio negative (digits * Nat.pow 10 e) 1
    | .negSucc e => ofRatio negative digits (Nat.pow 10 (e + 1))

/-- The double nearest to the product of two finite doubles. -/
def mul (x y : Binary64) : Binary64 :=
  let mantissa := x.mantissa * y.mantissa
  let negative := x.isNegative != y.isNegative
  match x.exponent + y.exponent with
  | .ofNat e => ofRatio negative (mantissa * Nat.pow 2 e) 1
  | .negSucc e => ofRatio negative mantissa (Nat.pow 2 (e + 1))

/-- The whole part of the magnitude of a finite double. -/
def wholePart (x : Binary64) : Nat :=
  match x.exponent with
  | .ofNat e => x.mantissa * Nat.pow 2 e
  | .negSucc e => x.mantissa / Nat.pow 2 (e + 1)

/-- The double nearest to a whole number. -/
def ofInt (n : Int) : Binary64 :=
  ofRatio (n < 0) n.natAbs 1

end Binary64

end TypedClient
