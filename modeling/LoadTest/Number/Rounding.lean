/-!
# Rounding a quotient

`roundHalfEven num den` is the whole number nearest to `num / den`; a half goes to the even
neighbour. `roundHalfAway` sends a half up instead.
-/

namespace LoadTest

/-- The whole number nearest to a quotient, the even one of two. -/
def roundHalfEven (num den : Nat) : Nat :=
  let q := num / den
  let r := num % den
  if 2 * r < den ∨ (2 * r = den ∧ q % 2 = 0) then q else q + 1

/-- The whole number nearest to a quotient, the larger one of two. -/
def roundHalfAway (num den : Nat) : Nat :=
  (2 * num + den) / (2 * den)

end LoadTest
