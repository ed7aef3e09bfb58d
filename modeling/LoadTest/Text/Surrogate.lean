/-!
# Surrogates

A character beyond 16 bits is written as two units of 16 bits, one of each kind.
-/

namespace LoadTest.Surrogate

/-- The first half of a pair. -/
def isLead (unit : Nat) : Bool :=
  0xD800 ≤ unit && unit < 0xDC00

/-- The second half of a pair. -/
def isTrail (unit : Nat) : Bool :=
  0xDC00 ≤ unit && unit < 0xE000

/-- The character of both halves. -/
def pair (lead trail : Nat) : Char :=
  Char.ofNat (0x10000 + (lead - 0xD800) * 0x400 + (trail - 0xDC00))

end LoadTest.Surrogate
