import LoadTest.Text.Utf8

/-!
# Character sets with pairs

In many character sets some bytes beyond ASCII are characters of their own, and others start a
character of two bytes. Two bytes that make no character are a mistake, after which a second byte
of ASCII is read again, so that no quotation mark or line end is lost.
-/

namespace LoadTest

/-- A character set in which a character takes one byte or two. -/
structure PairSet where
  single? : Nat → Option Char
  isLead : Nat → Bool
  pair? : Nat → Nat → Option (List Char)

namespace PairSet

/-- What was read, the last character first, and the byte that waits for another. -/
structure State where
  output : List Char
  lead : Option Nat

/-- A byte that no other waits for. -/
def start (set : PairSet) (output : List Char) (b : Nat) : State :=
  if b < 0x80 then ⟨Char.ofNat b :: output, none⟩
  else match set.single? b with
    | some c => ⟨c :: output, none⟩
    | none =>
      if set.isLead b then ⟨output, some b⟩ else ⟨replacementChar :: output, none⟩

/-- Takes the next byte. -/
def push (set : PairSet) (s : State) (byte : UInt8) : State :=
  let b := byte.toNat
  match s.lead with
  | none => set.start s.output b
  | some lead =>
    match set.pair? lead b with
    | some cs => ⟨cs.reverse ++ s.output, none⟩
    | none =>
      if b < 0x80 then set.start (replacementChar :: s.output) b
      else ⟨replacementChar :: s.output, none⟩

/-- The text of bytes, with a replacement for each mistake. -/
def decode (set : PairSet) (bytes : List UInt8) : List Char :=
  let s := bytes.foldl set.push ⟨[], none⟩
  (if s.lead.isSome then replacementChar :: s.output else s.output).reverse

end PairSet

end LoadTest
