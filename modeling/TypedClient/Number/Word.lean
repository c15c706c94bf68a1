/-!
# The size of words

Whole numbers that have to fit 64 bits are compared with these bounds.
-/

namespace TypedClient.Word

/-- `2 ^ 64`, the least number that needs more than 64 bits. -/
def bound : Nat := 0x10000000000000000

/-- `2 ^ 63`, the least number that needs more than 64 bits with a sign. -/
def signedBound : Nat := 0x8000000000000000

end TypedClient.Word
