import LoadTest.Entries
import LoadTest.Number.Binary64

/-!
# JSON values

Whole numbers that fit 64 bits are kept as such, all other numbers as the nearest double.
An object keeps its members in order.
-/

namespace LoadTest.Json

/-- `negative below` is the whole number `-(below + 1)`. -/
inductive Number where
  | natural (n : UInt64)
  | negative (below : Fin (2 ^ 63))
  | real (x : Finite)
deriving DecidableEq

namespace Number

/-- A whole number, which has to fit 64 bits. -/
def ofNat (n : Nat) : Number :=
  .natural (UInt64.ofNat n)

/-- A whole number with a sign. -/
def ofInt64 (n : Int64) : Number :=
  match n.toInt with
  | .ofNat n => .natural (UInt64.ofNat n)
  | .negSucc below => .negative (Fin.ofNat (2 ^ 63) below)

/-- The nearest double. -/
def toBinary64 : Number → Binary64
  | .natural n => .ofNat n.toNat
  | .negative below => (Binary64.ofNat (below.val + 1)).neg
  | .real x => .finite x

end Number

/-- A JSON value. -/
inductive Value where
  | null
  | bool (b : Bool)
  | number (n : Number)
  | text (s : String)
  | array (items : List Value)
  | object (members : List (String × Value))

namespace Value

/-- What is not finite has no spelling and is `null`. -/
def ofBinary64 : Binary64 → Value
  | .finite x => .number (.real x)
  | _ => .null

/-- The document of a whole number. -/
def ofUInt64 (n : UInt64) : Value :=
  .number (.natural n)

/-- The document of a whole number. -/
def ofUInt32 (n : UInt32) : Value :=
  .number (.natural n.toUInt64)

/-- The document of a whole number with a sign. -/
def ofInt64 (n : Int64) : Value :=
  .number (.ofInt64 n)

def isNull : Value → Bool
  | .null => true
  | _ => false

/-- The member of that name, of an object. -/
def get? (name : String) : Value → Option Value
  | .object members => Entries.get? name members
  | _ => none

/-- The text that it is, if it is one. -/
def text? : Value → Option String
  | .text s => some s
  | _ => none

end Value

end LoadTest.Json
