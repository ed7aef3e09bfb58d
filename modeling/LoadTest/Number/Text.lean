import LoadTest.Number.Shortest

/-!
# Texts of doubles

Three texts are written. A document holds the shortest digits with a point or an exponent, so that
the number is seen to be a real one. A plain numeral has the shortest digits and no exponent. A
rounded numeral has two places, taken from the exact value, a half to the even neighbour.
-/

namespace LoadTest

/-- A minus sign where there is one. -/
def signChars (negative : Bool) : List Char :=
  if negative then ['-'] else []

namespace Decimal

/-- Where the point stands: the value is `0.digits` times ten to this power. -/
def pointPosition (d : Decimal) : Int :=
  (Nat.toDigits 10 d.digits).length + d.exponent

/-- Digits with a point where one is needed, no exponent and no sign. -/
def plainChars (d : Decimal) : List Char :=
  let digits := Nat.toDigits 10 d.digits
  if 0 ≤ d.exponent then digits ++ List.replicate d.exponent.toNat '0'
  else if 0 < d.pointPosition then
    digits.take d.pointPosition.toNat ++ '.' :: digits.drop d.pointPosition.toNat
  else '0' :: '.' :: (List.replicate d.pointPosition.natAbs '0' ++ digits)

/-- One digit, a point and the others if there are any, and an exponent with its sign. -/
def scientificChars (d : Decimal) : List Char :=
  let digits := Nat.toDigits 10 d.digits
  let exponent := d.pointPosition - 1
  let significand := match digits with
    | first :: second :: rest => first :: '.' :: second :: rest
    | few => few
  significand ++ 'e' :: (if exponent < 0 then '-' else '+') :: Nat.toDigits 10 exponent.natAbs

end Decimal

namespace Finite

/-- Plain from `1e-5` up to below `1e16`, and with an exponent beyond. -/
def documentChars (x : Finite) : List Char :=
  let d := x.shortest .even
  signChars x.negative ++
    if x.isZero then ['0', '.', '0']
    else if -4 ≤ d.pointPosition ∧ d.pointPosition ≤ 16 then
      if 0 ≤ d.exponent then d.plainChars ++ ['.', '0'] else d.plainChars
    else d.scientificChars

/-- The shortest digits, without an exponent. -/
def plainChars (x : Finite) : List Char :=
  signChars x.negative ++ (x.shortest .up).plainChars

/-- The exact value rounded to two places. -/
def twoPlacesChars (x : Finite) : List Char :=
  let hundredths := roundHalfEven (x.units * 100) Binary64.one
  signChars x.negative ++ Nat.toDigits 10 (hundredths / 100) ++
    ['.', Nat.digitChar (hundredths / 10 % 10), Nat.digitChar (hundredths % 10)]

end Finite

namespace Binary64

/-- What is written of a double: a name where it is no number, and else the text of the number. -/
def specialChars : Binary64 → (Finite → List Char) → List Char
  | .nan, _ => "NaN".toList
  | .infinite negative, _ => signChars negative ++ "inf".toList
  | .finite x, text => text x

/-- The plain numeral of a double. -/
def plainChars (x : Binary64) : List Char :=
  x.specialChars Finite.plainChars

/-- The numeral of a double with two places. -/
def twoPlacesChars (x : Binary64) : List Char :=
  x.specialChars Finite.twoPlacesChars

end Binary64

end LoadTest
