import LoadTest.Text.Surrogate
import LoadTest.Text.Utf8

/-!
# Text in pairs of bytes

Two bytes make a unit of 16 bits, and a unit is a character or half of a surrogate pair. Half a pair
without the other half is a mistake, and so is what is left over at the end.
-/

namespace LoadTest.Utf16

/-- What was read, the last character first, and what waits for its other half. -/
structure State where
  output : List Char
  byte : Option Nat
  lead : Option Nat

namespace State

/-- Before the first byte. -/
def empty : State :=
  ⟨[], none, none⟩

/-- A unit with no half of a pair before it. -/
def single (output : List Char) (unit : Nat) : State :=
  if Surrogate.isLead unit then ⟨output, none, some unit⟩
  else if Surrogate.isTrail unit then ⟨replacementChar :: output, none, none⟩
  else ⟨Char.ofNat unit :: output, none, none⟩

/-- Takes the next unit. -/
def pushUnit (s : State) (unit : Nat) : State :=
  match s.lead with
  | none => single s.output unit
  | some lead =>
    if Surrogate.isTrail unit then ⟨Surrogate.pair lead unit :: s.output, none, none⟩
    else single (replacementChar :: s.output) unit

/-- Takes the next byte, of a unit the first or the second. -/
def push (bigEndian : Bool) (s : State) (byte : UInt8) : State :=
  match s.byte with
  | none => { s with byte := some byte.toNat }
  | some first =>
    s.pushUnit (if bigEndian then first * 256 + byte.toNat else byte.toNat * 256 + first)

/-- What was read. Half a unit or half a pair at the end is a mistake. -/
def finish (s : State) : List Char :=
  (if s.byte.isSome || s.lead.isSome then replacementChar :: s.output else s.output).reverse

end State

/-- The text of bytes, with a replacement for each mistake. -/
def decode (bigEndian : Bool) (bytes : List UInt8) : List Char :=
  (bytes.foldl (State.push bigEndian) .empty).finish

end LoadTest.Utf16
