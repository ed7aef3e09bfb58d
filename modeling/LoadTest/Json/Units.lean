import LoadTest.Text.Surrogate

/-!
# Texts from 16-bit units

Escapes in a document name 16-bit units. Two units that form a surrogate pair are one character;
half a pair is a flaw, after which the text can no longer be kept.
-/

namespace LoadTest.Json

/-- A text under construction, its last character first. -/
structure Draft where
  chars : List Char
  /-- The first half of a pair, when it came last. -/
  lead : Option Nat
  flawed : Bool

namespace Draft

/-- The start of a text. -/
def empty : Draft :=
  ⟨[], none, false⟩

/-- Adds a character, before which no half of a pair may stand. -/
def push (c : Char) (d : Draft) : Draft :=
  ⟨c :: d.chars, none, d.flawed || d.lead.isSome⟩

/-- Adds a unit: a character, or half of one. -/
def pushUnit (unit : Nat) (d : Draft) : Draft :=
  if Surrogate.isLead unit then ⟨d.chars, some unit, d.flawed || d.lead.isSome⟩
  else if Surrogate.isTrail unit then
    match d.lead with
    | some lead => ⟨Surrogate.pair lead unit :: d.chars, none, d.flawed⟩
    | none => ⟨d.chars, none, true⟩
  else d.push (Char.ofNat unit)

/-- The text, unless it has a flaw. -/
def text? (d : Draft) : Option String :=
  if d.flawed || d.lead.isSome then none else some (String.ofList d.chars.reverse)

end Draft

end LoadTest.Json
