import LoadTest.Text.Charset.Jis
import LoadTest.Text.Charset.Pairs

/-!
# Shift JIS

Narrow kana take one byte; the others take two, of which the first names two rows of the table. The
rows behind the table are for private use.
-/

namespace LoadTest.ShiftJis

/-- The number of the first character for private use. -/
def privateFirst : Nat :=
  8836

/-- The number of the last character for private use. -/
def privateLast : Nat :=
  10715

/-- The character of two bytes. -/
def pair? (lead b : Nat) : Option (List Char) :=
  let row := lead - (if lead < 0xA0 then 0x81 else 0xC1)
  let place := row * 188 + b - (if b < 0x7F then 0x40 else 0x41)
  if (0x40 ≤ b && b ≤ 0x7E) || (0x80 ≤ b && b ≤ 0xFC) then
    if privateFirst ≤ place && place ≤ privateLast then
      some [Char.ofNat (0xE000 + (place - privateFirst))]
    else (Jis.table.char? place).map ([·])
  else none

/-- The leads leave room for the narrow kana between them. -/
def set : PairSet where
  single? b := if b = 0x80 then some '\u0080' else Jis.narrowKana? b
  isLead b := (0x81 ≤ b && b ≤ 0x9F) || (0xE0 ≤ b && b ≤ 0xFC)
  pair? := pair?

end LoadTest.ShiftJis
