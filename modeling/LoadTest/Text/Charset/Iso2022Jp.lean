import LoadTest.Text.Charset.Jis
import LoadTest.Text.Utf8

/-!
# ISO-2022-JP

All bytes are ASCII. Escapes of three bytes tell how those behind them are read: as ASCII, as ASCII
with a yen sign and an overline, as narrow kana, or as pairs. Two escapes with nothing between them
are a mistake.
-/

namespace LoadTest.Iso2022Jp

/-- How bytes are read at the moment. -/
inductive Mode where
  | ascii
  | roman
  | kana
  | pairs
deriving DecidableEq

/-- What waits for more bytes. -/
inductive Pending where
  | nothing
  | lead (b : Nat)
  | escape
  | escapeWith (b : Nat)

/-- How far the bytes have been read. -/
structure State where
  /-- What was read, the last character first. -/
  output : List Char
  mode : Mode
  pending : Pending
  /-- Whether an escape came last. -/
  justEscaped : Bool

namespace State

/-- Before the first byte all are ASCII. -/
def empty : State :=
  ⟨[], .ascii, .nothing, false⟩

/-- Adds a character that is complete. -/
def emit (s : State) (c : Char) : State :=
  { s with output := c :: s.output, pending := .nothing, justEscaped := false }

/-- Adds a replacement for bytes that stand for nothing. -/
def mistake (s : State) : State :=
  s.emit replacementChar

/-- The character of a byte, where no byte waits for it. -/
def single? (mode : Mode) (b : Nat) : Option Char :=
  match mode with
  | .ascii => plain? b
  | .roman =>
    if b = 0x5C then some '¥' else if b = 0x7E then some '‾' else plain? b
  | .kana => if 0x21 ≤ b && b ≤ 0x5F then Jis.narrowKana? (b + 0x80) else none
  | .pairs => none
where
  plain? (b : Nat) : Option Char :=
    if b < 0x80 && b != 0x0E && b != 0x0F then some (Char.ofNat b) else none

/-- A byte that no other waits for. -/
def start (s : State) (b : Nat) : State :=
  if b = 0x1B then { s with pending := .escape }
  else if s.mode = .pairs && 0x21 ≤ b && b ≤ 0x7E then
    { s with pending := .lead b, justEscaped := false }
  else match single? s.mode b with
    | some c => s.emit c
    | none => s.mistake

/-- The second byte of a pair. -/
def second (s : State) (lead b : Nat) : State :=
  if b = 0x1B then { s.mistake with pending := .escape }
  else if 0x21 ≤ b && b ≤ 0x7E then
    match Jis.table.char? ((lead - 0x21) * 94 + (b - 0x21)) with
    | some c => s.emit c
    | none => s.mistake
  else s.mistake

/-- What an escape of these two bytes asks for. -/
def mode? (a b : Nat) : Option Mode :=
  if a = 0x28 then
    if b = 0x42 then some .ascii
    else if b = 0x4A then some .roman
    else if b = 0x49 then some .kana
    else none
  else if b = 0x40 || b = 0x42 then some .pairs
  else none

/-- Bytes behind an escape character that ask for nothing are read again. -/
def pushAgain (s : State) (b : Nat) : State :=
  match s.pending with
  | .lead lead => s.second lead b
  | _ => s.start b

/-- Takes the next byte. -/
def push (s : State) (byte : UInt8) : State :=
  let b := byte.toNat
  match s.pending with
  | .nothing => s.start b
  | .lead lead => s.second lead b
  | .escape =>
    if b = 0x24 || b = 0x28 then { s with pending := .escapeWith b }
    else s.mistake.start b
  | .escapeWith a =>
    match mode? a b with
    | some mode =>
      let output := if s.justEscaped then replacementChar :: s.output else s.output
      ⟨output, mode, .nothing, true⟩
    | none => (s.mistake.start a).pushAgain b

/-- What was read. Bytes that still wait for others are a mistake. -/
def finish (s : State) : List Char :=
  let s := match s.pending with
    | .nothing => s
    | .lead _ | .escape => s.mistake
    | .escapeWith a =>
      let s := s.mistake.start a
      match s.pending with
      | .lead _ => s.mistake
      | _ => s
  s.output.reverse

end State

/-- The text of bytes, with a replacement for each mistake. -/
def decode (bytes : List UInt8) : List Char :=
  (bytes.foldl State.push .empty).finish

end LoadTest.Iso2022Jp
