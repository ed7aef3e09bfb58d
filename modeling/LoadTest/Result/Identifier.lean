/-!
# Identifiers of results

A new result is named by sixteen random bytes, written in hexadecimal digits in five groups. Six of
the bits are fixed: they say that the others are random.
-/

namespace LoadTest.Identifier

/-- The two digits of a byte. -/
def byteChars (n : Nat) : List Char :=
  [Nat.digitChar (n / 16), Nat.digitChar (n % 16)]

/-- The sizes of the groups, in bytes. -/
def groupSizes : List Nat :=
  [4, 2, 2, 2, 6]

/-- Bytes in groups of these sizes. -/
def groups : List Nat → List Nat → List (List Nat)
  | [], _ => []
  | size :: sizes, bytes => bytes.take size :: groups sizes (bytes.drop size)

/-- Sets the bits that are fixed. -/
def marked (bytes : List Nat) : List Nat :=
  bytes.mapIdx fun i n =>
    if i = 6 then 0x40 + n % 0x10 else if i = 8 then 0x80 + n % 0x40 else n

/-- The name made of sixteen bytes. -/
def ofBytes (bytes : List Nat) : String :=
  String.intercalate "-" <|
    (groups groupSizes (marked bytes)).map fun group => String.ofList (group.flatMap byteChars)

end LoadTest.Identifier
