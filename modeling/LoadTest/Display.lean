import LoadTest.Number.Text

/-!
# Amounts for people

The largest unit is taken that the amount fills, with two places.
-/

namespace LoadTest.Display

/-- So many of a unit, with two places. -/
def quotient (x : Binary64) (divisor : Nat) (unit : String) : String :=
  String.ofList (x.div (.ofNat divisor)).twoPlacesChars ++ unit

/-- A time in milliseconds as people read it. Below a second nothing is rounded. -/
def duration (ms : Binary64) : String :=
  if ms.lt (.ofNat 1000) then String.ofList ms.plainChars ++ "ms"
  else if ms.lt (.ofNat 60000) then quotient ms 1000 "s"
  else if ms.lt (.ofNat 3600000) then quotient ms 60000 "m"
  else quotient ms 3600000 "h"

/-- An amount of bytes as people read it. -/
def bytes (n : UInt64) : String :=
  let b := Binary64.ofNat n.toNat
  if b.lt (.ofNat 1024) then toString n.toNat ++ " B"
  else if b.lt (.ofNat (1024 ^ 2)) then quotient b 1024 " KB"
  else if b.lt (.ofNat (1024 ^ 3)) then quotient b (1024 ^ 2) " MB"
  else quotient b (1024 ^ 3) " GB"

/-- A share of nothing is nothing. -/
def percentage (value total : Binary64) : String :=
  if total.same .zero then "0%"
  else String.ofList ((value.div total).mul (.ofNat 100)).twoPlacesChars ++ "%"

end LoadTest.Display
