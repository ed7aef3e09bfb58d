/-!
# Text in bytes

A character takes one to four bytes. The first byte tells how many, and which ones the second may
be, so that no character has two forms and none is half of a surrogate pair. Bytes that start a
character but do not complete it count as one mistake, as does a byte that starts none.
-/

namespace LoadTest

/-- Stands for bytes that are no character. -/
def replacementChar : Char :=
  '\ufffd'

namespace Utf8

/-- A character that has begun. -/
structure Pending where
  bits : Nat
  /-- How many bytes are still to come, at least one. -/
  missing : Nat
  /-- The bounds of the next byte. -/
  low : Nat
  high : Nat

/-- What the bytes up to a place stand for, the last first, with nothing for a mistake. -/
structure State where
  pieces : List (Option Char)
  pending : Option Pending

namespace State

/-- Before the first byte. -/
def empty : State :=
  ⟨[], none⟩

/-- A byte that does not belong to a character before it. -/
def start (pieces : List (Option Char)) (b : Nat) : State :=
  if b < 0x80 then ⟨some (Char.ofNat b) :: pieces, none⟩
  else if 0xC2 ≤ b && b ≤ 0xDF then ⟨pieces, some ⟨b - 0xC0, 1, 0x80, 0xBF⟩⟩
  else if 0xE0 ≤ b && b ≤ 0xEF then
    ⟨pieces, some ⟨b - 0xE0, 2, if b = 0xE0 then 0xA0 else 0x80, if b = 0xED then 0x9F else 0xBF⟩⟩
  else if 0xF0 ≤ b && b ≤ 0xF4 then
    ⟨pieces, some ⟨b - 0xF0, 3, if b = 0xF0 then 0x90 else 0x80, if b = 0xF4 then 0x8F else 0xBF⟩⟩
  else ⟨none :: pieces, none⟩

/-- Takes the next byte. -/
def push (s : State) (byte : UInt8) : State :=
  let b := byte.toNat
  match s.pending with
  | none => start s.pieces b
  | some p =>
    if p.low ≤ b && b ≤ p.high then
      let bits := p.bits * 64 + (b - 0x80)
      if p.missing ≤ 1 then ⟨some (Char.ofNat bits) :: s.pieces, none⟩
      else ⟨s.pieces, some ⟨bits, p.missing - 1, 0x80, 0xBF⟩⟩
    else start (none :: s.pieces) b

/-- What was read. A character that is not complete is a mistake. -/
def finish (s : State) : List (Option Char) :=
  (if s.pending.isSome then none :: s.pieces else s.pieces).reverse

end State

/-- What bytes stand for, with nothing for each mistake. -/
def pieces (bytes : List UInt8) : List (Option Char) :=
  (bytes.foldl State.push .empty).finish

/-- The text of bytes, with a replacement for each mistake. -/
def decode (bytes : List UInt8) : List Char :=
  (pieces bytes).map (·.getD replacementChar)

end Utf8

end LoadTest
