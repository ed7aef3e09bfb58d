import LoadTest.Proofs.Server.Post

/-!
# The text of a part

A part that has come in UTF-8 is read as the text that was sent, unless the text starts with the
mark that goes before what a sender says of the bytes (`Part.Holds.text_eq`).
-/

namespace LoadTest

namespace Multipart

theorem bytesOf_eq_flatMap (s : String) : bytesOf s = s.toList.flatMap String.utf8EncodeChar := by
  rw [bytesOf, String.toUTF8_eq_toByteArray, ← String.utf8Encode_toList, List.utf8Encode,
    List.data_toByteArray]

@[simp]
theorem bytesOf_append (s t : String) : bytesOf (s ++ t) = bytesOf s ++ bytesOf t := by
  simp only [bytesOf_eq_flatMap, String.toList_append, List.flatMap_append]

theorem fromUTF8?_bytesOf (s : String) : String.fromUTF8? ⟨(bytesOf s).toArray⟩ = some s :=
  fromUTF8?_toUTF8 s

/-- Bytes of a text start with those of another only if the text starts with the other. -/
theorem isPrefix_of_bytesOf {s t : String} (h : bytesOf s <+: bytesOf t) :
    s.toList <+: t.toList := by
  obtain ⟨rest, hrest⟩ := h
  refine List.isPrefix_of_utf8Encode_append_eq_utf8Encode ⟨rest.toArray⟩ ?_
  rw [String.utf8Encode_toList, String.utf8Encode_toList]
  refine ByteArray.ext (Array.toList_inj.1 ?_)
  rw [ByteArray.data_append, Array.toList_append]
  exact hrest

theorem isUTF8FirstByte_of_bytesOf {s : String} {b : UInt8} {rest : Bytes}
    (h : bytesOf s = b :: rest) : b.IsUTF8FirstByte := by
  cases hs : s.toList with
  | nil => simp [bytesOf_eq_flatMap, hs] at h
  | cons c cs =>
    have hb : (String.utf8EncodeChar c)[0]? = some b := by
      rw [bytesOf_eq_flatMap, hs, List.flatMap_cons] at h
      rw [← List.getElem?_append_left (by simp [c.utf8Size_pos]), h, List.getElem?_cons_zero]
    obtain ⟨_, rfl⟩ := List.getElem?_eq_some_iff.1 hb
    exact UInt8.isUTF8FirstByte_getElem_zero_utf8EncodeChar

end Multipart

open Multipart (bytesOf)

/-- The mark that may stand in front of a text. -/
def byteOrderMark : Char :=
  '\ufeff'

/-- The text in UTF-8, without a mark in front of it. -/
structure Part.Holds (part : Part) (text : String) : Prop where
  charset_eq : part.charset = .utf8
  content_eq : part.content = bytesOf text
  unmarked : text.toList.head? ≠ some byteOrderMark

theorem Charset.text_bytesOf {s : String} (h : s.toList.head? ≠ some byteOrderMark) :
    Charset.utf8.text (bytesOf s) = s := by
  unfold text
  split
  · rename_i rest hbytes
    -- these three bytes are those of the mark
    have hmark : bytesOf (String.singleton byteOrderMark) <+: bytesOf s := ⟨rest, hbytes.symm⟩
    obtain ⟨cs, hcs⟩ := Multipart.isPrefix_of_bytesOf hmark
    exact absurd (by rw [← hcs]; rfl) h
  · rename_i rest hbytes
    exact absurd (Multipart.isUTF8FirstByte_of_bytesOf hbytes) (by decide)
  · rename_i rest hbytes
    exact absurd (Multipart.isUTF8FirstByte_of_bytesOf hbytes) (by decide)
  · rw [decode, Multipart.fromUTF8?_bytesOf]

theorem Part.Holds.text_eq {part : Part} {text : String} (h : part.Holds text) :
    part.text = text := by
  rw [Part.text, h.charset_eq, h.content_eq, Charset.text_bytesOf h.unmarked]

end LoadTest
