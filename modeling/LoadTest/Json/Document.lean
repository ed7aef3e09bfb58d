import LoadTest.Json.Decode
import LoadTest.Json.Reader
import LoadTest.Text.Utf8

/-!
# Documents of one shape

A text is read and decoded in one pass, so that the first fault in the order of the text is the one
that counts: what stands behind a document matters only if the document has the shape asked for.
-/

namespace LoadTest.Json

/-- Reads a text that holds one document of that shape and nothing else. -/
def Decoder.ofChars {α : Type} (decode : Decoder α) (cs : List Char) : Except Fault α :=
  match Tree.read cs with
  | (t, rest) => do
    let a ← decode t
    if (skipBlanks rest).isEmpty then pure a else throw .malformed

/-- Escapes that spoil the text they stand in, as two first halves of surrogate pairs. -/
def spoilingEscapes : List Char :=
  "\\ud800\\ud800".toList

/-- Adds a piece to a document that is put together, the last character first; a mistake spoils the
text around it, and a backslash before it escapes nothing. `escaped` tells of that backslash. -/
def pushPiece (document : List Char × Bool) (piece : Option Char) : List Char × Bool :=
  let (cs, escaped) := document
  match piece with
  | some c => (c :: cs, c = '\\' && !escaped)
  | none => ((if escaped then 'x' :: cs else spoilingEscapes.reverse ++ cs), false)

/-- The document that bytes hold. Mistakes among them matter only where their text is kept. -/
def documentChars (bytes : ByteArray) : List Char :=
  match String.fromUTF8? bytes with
  | some text => text.toList
  | none => ((Utf8.pieces bytes.data.toList).foldl pushPiece ([], false)).1.reverse

end LoadTest.Json
