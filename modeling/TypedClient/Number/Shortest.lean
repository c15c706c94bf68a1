import TypedClient.Number.Binary64

/-!
# Shortest decimals

The shortest decimal that reads back as a given double. The reals that round to a double form an
interval around it, closed when its mantissa is even. Going from coarse to fine powers of ten,
the first power with a multiple in the interval gives the fewest digits; of two such multiples
the nearer to the double is taken, and of two equally near the even one.
-/

namespace TypedClient

/-- The number `digits · 10 ^ exponent`. -/
structure Decimal where
  /-- The digits as one whole number. -/
  digits : Nat
  /-- The power of ten that the last digit counts. -/
  exponent : Int
deriving DecidableEq, Repr

namespace Binary64

/-- A double and its interval on one integer scale: `value`, `low` and `high` count the same unit,
which is a quarter of the spacing of doubles there. -/
structure Neighbourhood where
  /-- The double. -/
  value : Nat
  /-- The midpoint below it. -/
  low : Nat
  /-- The midpoint above it. -/
  high : Nat
  /-- The power of two of the unit. -/
  exponent : Int
  /-- Whether the midpoints round to the double. -/
  closed : Bool

/-- The interval of a positive finite double. Below a power of two the spacing halves. -/
def neighbourhood (x : Binary64) : Neighbourhood :=
  let m := x.mantissa
  let narrow := m = Binary64.hiddenBit ∧ x.magnitude ≥ 2 * Binary64.hiddenBit
  { value := 4 * m
    low := if narrow then 4 * m - 1 else 4 * m - 2
    high := 4 * m + 2
    exponent := x.exponent - 2
    closed := m % 2 = 0 }

/-- The multiple of `10 ^ k` in the interval that is nearest to the double, counted in `10 ^ k`. -/
def Neighbourhood.onGrid? (n : Neighbourhood) (k : Int) : Option Nat :=
  let up := Nat.pow 2 n.exponent.toNat * Nat.pow 10 (-k).toNat
  let unit := Nat.pow 2 (-n.exponent).toNat * Nat.pow 10 k.toNat
  let value := n.value * up
  let below := value / unit
  let lowOk := below ≠ 0 ∧
    (n.low * up < below * unit ∨ (n.closed ∧ n.low * up = below * unit))
  let highOk := (below + 1) * unit < n.high * up ∨
    (n.closed ∧ (below + 1) * unit = n.high * up)
  let gapBelow := value - below * unit
  let gapAbove := (below + 1) * unit - value
  if lowOk ∧ highOk then
    if gapBelow < gapAbove ∨ (gapBelow = gapAbove ∧ below % 2 = 0) then some below
    else some (below + 1)
  else if lowOk then some below
  else if highOk then some (below + 1)
  else none

/-- The first hit on the grids `10 ^ k`, `10 ^ (k - 1)`, ...; the grid of the exact value always
hits, so the fuel of `shortest` is never used up. -/
def Neighbourhood.search (n : Neighbourhood) : (fuel : Nat) → (k : Int) → Decimal
  | 0, k => ⟨0, k⟩
  | fuel + 1, k =>
      match n.onGrid? k with
      | some digits => ⟨digits, k⟩
      | none => n.search fuel (k - 1)

/-- The shortest decimal that reads back as the magnitude of a finite double. -/
def shortest (x : Binary64) : Decimal :=
  if x.mantissa = 0 then ⟨0, 0⟩
  else
    let top : Int := x.exponent + (Nat.log2 x.mantissa : Int) + 1
    x.neighbourhood.search 40 (Int.fdiv (top * 30103) 100000 + 2)

end Binary64

end TypedClient
