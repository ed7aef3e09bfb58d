import LoadTest.Text.Charset.Jis
import LoadTest.Text.Charset.JisSupplement
import LoadTest.Text.Utf8

/-!
# EUC-JP

A character takes two bytes, its row and its place there. One lead byte is for narrow kana, and
another stands before the two bytes of a character of the supplement.
-/

namespace LoadTest.EucJp

/-- What waits for more bytes. -/
inductive Pending where
  | nothing
  | lead (b : Nat)
  | supplement (b : Nat)

/-- What was read, the last character first. -/
structure State where
  output : List Char
  pending : Pending

/-- A byte that no other waits for. -/
def start (output : List Char) (b : Nat) : State :=
  if b < 0x80 then ⟨Char.ofNat b :: output, .nothing⟩
  else if b = 0x8E || b = 0x8F || (0xA1 ≤ b && b ≤ 0xFE) then ⟨output, .lead b⟩
  else ⟨replacementChar :: output, .nothing⟩

/-- The end of a character of several bytes. -/
def settle (output : List Char) (b : Nat) (c? : Option Char) : State :=
  match c? with
  | some c => ⟨c :: output, .nothing⟩
  | none =>
    if b < 0x80 then start (replacementChar :: output) b
    else ⟨replacementChar :: output, .nothing⟩

/-- The character in the row and at the place of two bytes. -/
def char? (table : RangeTable String) (lead b : Nat) : Option Char :=
  if 0xA1 ≤ lead && lead ≤ 0xFE && 0xA1 ≤ b && b ≤ 0xFE then
    table.char? ((lead - 0xA1) * 94 + (b - 0xA1))
  else none

/-- Takes the next byte. -/
def push (s : State) (byte : UInt8) : State :=
  let b := byte.toNat
  match s.pending with
  | .nothing => start s.output b
  | .lead lead =>
    if lead = 0x8E then settle s.output b (Jis.narrowKana? b)
    else if lead = 0x8F && 0xA1 ≤ b && b ≤ 0xFE then ⟨s.output, .supplement b⟩
    else settle s.output b (char? Jis.table lead b)
  | .supplement lead => settle s.output b (char? Jis.supplement lead b)

/-- The text of bytes, with a replacement for each mistake. -/
def decode (bytes : List UInt8) : List Char :=
  let s := bytes.foldl push ⟨[], .nothing⟩
  (match s.pending with
    | .nothing => s.output
    | _ => replacementChar :: s.output).reverse

end LoadTest.EucJp
