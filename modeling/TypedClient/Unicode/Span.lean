/-!
# Sets and maps of code points

A property of characters is written as an ascending list of `Span`s, and a mapping of characters
as a list of `Shift`s. Look-up is a plain search, so that a fact about a table is a fact about a
list.

The tables are of two versions of Unicode because the program has them from two places. What a
character is and its simple case mappings come with the standard library of the toolchain that the
program is built with, which follows Unicode 17. The title case of words comes with a library for
texts that is fixed at a release of its own and has tables of its own, which follow Unicode 15.
-/

namespace TypedClient.Unicode

/-- The code points `first`, `first + step`, ... up to `last`. -/
structure Span where
  /-- The least code point. -/
  first : Nat
  /-- The greatest code point. -/
  last : Nat
  /-- The distance between neighbours. -/
  step : Nat
deriving DecidableEq, Repr

namespace Span

/-- Whether the code point `n` is in the span. -/
def mem (s : Span) (n : Nat) : Bool :=
  s.first ≤ n && n ≤ s.last && (n - s.first) % s.step == 0

/-- Whether the code point `n` is in one of the spans. -/
def contains (spans : List Span) (n : Nat) : Bool :=
  spans.any (·.mem n)

end Span

/-- The mapping that moves a span so that its first code point becomes `target`. -/
structure Shift where
  /-- The code points that are moved. -/
  span : Span
  /-- Where the first of them goes. -/
  target : Nat
deriving DecidableEq, Repr

namespace Shift

/-- The image of `c` under the first shift whose span holds it, or `c` itself. -/
def apply (shifts : List Shift) (c : Char) : Char :=
  match shifts.find? (·.span.mem c.toNat) with
  | some s => Char.ofNat (s.target + (c.toNat - s.span.first))
  | none => c

end Shift

end TypedClient.Unicode
