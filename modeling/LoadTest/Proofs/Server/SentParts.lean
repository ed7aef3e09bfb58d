import LoadTest.Server.Multipart
import Mathlib.Data.List.Infix

/-!
# Parts as they are sent

An upload of parts whose heads are lines of headers, and whose contents do not hold the boundary,
is read as these parts (`Upload.ofBytes_sent`).

A pattern is found at the first place where it stands: where it starts with a byte it does not hold
again, it is enough that it does not stand in what is before it (`Multipart.cut?_append`).
-/

namespace LoadTest

namespace Multipart

variable {pattern before behind bytes rest : Bytes} {b c : UInt8}

/-! ## Cutting -/

theorem cutFrom?_eq (pattern passed bytes : Bytes) :
    cutFrom? pattern passed bytes =
      (cut? pattern bytes).map fun cut => (passed.reverse ++ cut.1, cut.2) := by
  induction bytes generalizing passed with
  | nil =>
    simp only [cut?, cutFrom?]
    split <;> simp
  | cons b rest ih =>
    simp only [cut?, cutFrom?]
    split
    · simp
    · rw [ih (b :: passed), ih [b], Option.map_map]
      simp [Function.comp_def]

theorem cut?_self_append (hne : pattern ≠ []) :
    cut? pattern (pattern ++ rest) = some ([], rest) := by
  cases hbytes : pattern ++ rest with
  | nil => exact absurd (List.append_eq_nil_iff.1 hbytes).1 hne
  | cons b bytes =>
    have hprefix : pattern.isPrefixOf (b :: bytes) = true := by
      rw [List.isPrefixOf_iff_prefix, ← hbytes]
      exact List.prefix_append ..
    rw [cut?, cutFrom?, if_pos hprefix, ← hbytes, List.drop_left, List.reverse_nil]

theorem cut?_cons (h : ¬ pattern <+: b :: rest) :
    cut? pattern (b :: rest) = (cut? pattern rest).map fun cut => (b :: cut.1, cut.2) := by
  rw [cut?, cutFrom?, if_neg (by rwa [List.isPrefixOf_iff_prefix]), cutFrom?_eq]
  rfl

/-- A pattern starts at no byte but its first. -/
theorem cut?_append_of_notMem (h : c ∉ before) :
    cut? (c :: pattern) (before ++ bytes) =
      (cut? (c :: pattern) bytes).map fun cut => (before ++ cut.1, cut.2) := by
  induction before with
  | nil => simp
  | cons b before ih =>
    rw [List.mem_cons, not_or] at h
    have hprefix : ¬ c :: pattern <+: b :: (before ++ bytes) :=
      fun hprefix => h.1 (List.cons_prefix_cons.1 hprefix).1
    rw [List.cons_append, cut?_cons hprefix, ih h.2, Option.map_map]
    rfl

/-- A pattern that starts with a byte it does not hold again does not overlap itself. -/
theorem not_infix_append_dropLast (hc : c ∉ pattern) (h : ¬ c :: pattern <:+: before) :
    ¬ c :: pattern <:+: before ++ (c :: pattern).dropLast := by
  intro hinfix
  rcases List.infix_append_iff_ne_nil.1 hinfix with hinfix | hinfix | ⟨l₁, l₂, h₁, h₂, hl, -, hl₂⟩
  · exact h hinfix
  · exact absurd hinfix.length_le (by simp)
  · obtain ⟨d, l₁, rfl⟩ := List.exists_cons_of_ne_nil h₁
    obtain ⟨e, l₂, rfl⟩ := List.exists_cons_of_ne_nil h₂
    obtain ⟨rfl, rfl⟩ := List.cons.inj hl
    have he := List.cons_prefix_cons.1 (hl₂.trans (List.dropLast_prefix _))
    exact hc (by simp [← he.1])

/-- A pattern is found where it stands first. -/
theorem cut?_append_of_first (hne : pattern ≠ [])
    (h : ¬ pattern <:+: before ++ pattern.dropLast) :
    cut? pattern (before ++ (pattern ++ behind)) = some (before, behind) := by
  induction before with
  | nil => exact cut?_self_append hne
  | cons b before ih =>
    rw [List.cons_append] at h
    have hprefix : ¬ pattern <+: b :: (before ++ (pattern ++ behind)) := by
      intro hprefix
      have hfront : b :: (before ++ pattern.dropLast) <+: b :: (before ++ (pattern ++ behind)) := by
        rw [List.cons_prefix_cons, List.prefix_append_right_inj]
        exact ⟨rfl, (List.dropLast_prefix _).trans (List.prefix_append ..)⟩
      refine h (List.prefix_of_prefix_length_le hprefix hfront ?_).isInfix
      have hpos := List.length_pos_iff.2 hne
      simp only [List.length_cons, List.length_append, List.length_dropLast]
      omega
    rw [List.cons_append, cut?_cons hprefix, ih fun hinfix => h (List.infix_cons hinfix)]
    rfl

theorem cut?_append (hc : c ∉ pattern) (h : ¬ c :: pattern <:+: before) :
    cut? (c :: pattern) (before ++ (c :: pattern ++ behind)) = some (before, behind) :=
  cut?_append_of_first (by simp) (not_infix_append_dropLast hc h)

/-! ## Heads -/

/-- A line with something in it, without its end. -/
structure IsHeadLine (line : Bytes) : Prop where
  ne_nil : line ≠ []
  return_notMem : 0x0D ∉ line
  feed_notMem : 0x0A ∉ line

theorem IsHeadLine.head?_append_ne {line : Bytes} (h : IsHeadLine line) (rest : Bytes) :
    (line ++ rest).head? ≠ some 0x0D := by
  obtain ⟨b, bs, rfl⟩ := List.exists_cons_of_ne_nil h.ne_nil
  exact fun hb => h.return_notMem (Option.some.inj hb ▸ List.mem_cons_self)

theorem lines_cons (h : b ≠ 0x0A) (line rest : Bytes) :
    lines line (b :: rest) = lines (b :: line) rest := by
  rw [lines]
  exact h

theorem lines_lineEnd (line rest : Bytes) :
    lines line (lineEnd ++ rest) = line.reverse :: lines [] rest := by
  change lines line (0x0D :: 0x0A :: rest) = _
  rw [lines_cons (by decide), lines]

theorem lines_append {line : Bytes} (h : 0x0A ∉ line) (passed rest : Bytes) :
    lines passed (line ++ (lineEnd ++ rest)) = (passed.reverse ++ line) :: lines [] rest := by
  induction line generalizing passed with
  | nil => rw [List.nil_append, lines_lineEnd, List.append_nil]
  | cons b line ih =>
    rw [List.mem_cons, not_or] at h
    rw [List.cons_append, lines_cons (Ne.symm h.1), ih h.2, List.reverse_cons, List.append_assoc,
      List.singleton_append]

theorem lines_flatMap {ls : List Bytes} (h : ∀ line ∈ ls, IsHeadLine line) :
    lines [] (ls.flatMap (· ++ lineEnd)) = ls ++ [[]] := by
  induction ls with
  | nil => rfl
  | cons line ls ih =>
    rw [List.forall_mem_cons] at h
    rw [List.flatMap_cons, List.append_assoc, lines_append h.1.feed_notMem, ih h.2]
    rfl

/-- The first line, and then the others, each with a line end before it. -/
theorem append_flatMap_lineEnd (line : Bytes) (ls : List Bytes) :
    line ++ (ls.flatMap (lineEnd ++ ·) ++ lineEnd) = (line :: ls).flatMap (· ++ lineEnd) := by
  induction ls generalizing line with
  | nil => simp
  | cons next ls ih =>
    rw [List.flatMap_cons, List.append_assoc, List.append_assoc, ih next,
      List.flatMap_cons (x := line), List.append_assoc]

theorem lineEnds : lineEnd ++ lineEnd = 0x0D :: [0x0A, 0x0D, 0x0A] := rfl

theorem cut?_line_append {line : Bytes} (hline : 0x0D ∉ line) (hrest : rest.head? ≠ some 0x0D) :
    cut? (lineEnd ++ lineEnd) (line ++ (lineEnd ++ rest)) =
      (cut? (lineEnd ++ lineEnd) rest).map fun cut => (line ++ (lineEnd ++ cut.1), cut.2) := by
  have hreturn : ¬ lineEnd ++ lineEnd <+: 0x0D :: 0x0A :: rest := by
    rintro ⟨behind, h⟩
    rw [lineEnds] at h
    simp only [List.cons_append, List.cons.injEq, true_and] at h
    exact hrest (by rw [← h]; rfl)
  have hfeed : ¬ lineEnd ++ lineEnd <+: 0x0A :: rest := by simp [lineEnds]
  rw [lineEnds, cut?_append_of_notMem hline, ← lineEnds]
  change ((cut? _ (0x0D :: 0x0A :: rest)).map _) = _
  rw [cut?_cons hreturn, cut?_cons hfeed, Option.map_map, Option.map_map]
  rfl

/-- A head ends where a line end follows a line end. -/
theorem cut?_head {line : Bytes} {ls : List Bytes} (h : ∀ l ∈ line :: ls, IsHeadLine l)
    (body : Bytes) :
    cut? (lineEnd ++ lineEnd)
        (line ++ (ls.flatMap (lineEnd ++ ·) ++ (lineEnd ++ lineEnd ++ body))) =
      some (line ++ ls.flatMap (lineEnd ++ ·), body) := by
  induction ls generalizing line with
  | nil =>
    have hline := (h line List.mem_cons_self).return_notMem
    rw [lineEnds, cut?_append_of_notMem hline, ← lineEnds, List.flatMap_nil, List.nil_append,
      cut?_self_append (by decide)]
    rfl
  | cons next ls ih =>
    rw [List.forall_mem_cons] at h
    rw [List.flatMap_cons, List.append_assoc, List.append_assoc lineEnd,
      cut?_line_append h.1.return_notMem ((h.2 next List.mem_cons_self).head?_append_ne _), ih h.2]
    rfl

/-! ## Headers -/

/-- The name and the value of a header, as they may be sent. -/
structure IsHeader (header : Bytes × Bytes) : Prop where
  name_ne : header.1 ≠ []
  name : ∀ b ∈ header.1, isNameByte b = true
  value : ∀ b ∈ header.2, isValueByte b = true

/-- The line of a header. -/
def headerLine (header : Bytes × Bytes) : Bytes :=
  header.1 ++ 0x3A :: 0x20 :: header.2

/-- A header as it is read. -/
def received (header : Bytes × Bytes) : Bytes × Bytes :=
  (header.1.map lower, withoutBlanks header.2)

namespace IsHeader

variable {header : Bytes × Bytes}

theorem header?_headerLine (h : IsHeader header) :
    header? (headerLine header) = some (received header) := by
  have hname : ¬ isNameByte 0x3A = true := by decide
  rw [header?, headerLine, List.takeWhile_append_of_pos h.name, List.dropWhile_append_of_pos h.name,
    List.takeWhile_cons_of_neg hname, List.dropWhile_cons_of_neg hname, List.append_nil]
  have hvalue : (0x20 :: header.2).all isValueByte = true := by
    rw [List.all_cons, List.all_eq_true.2 h.value]
    rfl
  simp only [hvalue, List.isEmpty_eq_false_iff.2 h.name_ne, Bool.not_false, Bool.and_self, if_true]
  rfl

theorem notMem_headerLine (h : IsHeader header) (hname : isNameByte b = false)
    (hvalue : isValueByte b = false) : b ∉ headerLine header := by
  intro hb
  rcases List.mem_append.1 hb with hb | hb
  · exact absurd (h.name b hb) (by simp [hname])
  · rcases List.mem_cons.1 hb with rfl | hb
    · exact absurd hvalue (by decide)
    · rcases List.mem_cons.1 hb with rfl | hb
      · exact absurd hvalue (by decide)
      · exact absurd (h.value b hb) (by simp [hvalue])

theorem isHeadLine_headerLine (h : IsHeader header) : IsHeadLine (headerLine header) where
  ne_nil := by simp [headerLine]
  return_notMem := h.notMem_headerLine (by decide) (by decide)
  feed_notMem := h.notMem_headerLine (by decide) (by decide)

end IsHeader

theorem mapM_header? {headers : List (Bytes × Bytes)} (h : ∀ header ∈ headers, IsHeader header) :
    (headers.map headerLine).mapM header? = some (headers.map received) := by
  induction headers with
  | nil => rfl
  | cons header headers ih =>
    rw [List.forall_mem_cons] at h
    rw [List.map_cons, List.mapM_cons, h.1.header?_headerLine, ih h.2]
    rfl

end Multipart

open Multipart

/-- A part as it is sent. Its head has at least one header. -/
structure SentPart where
  first : Bytes × Bytes
  more : List (Bytes × Bytes)
  content : Bytes

namespace SentPart

/-- All headers of the part. -/
def headers (p : SentPart) : List (Bytes × Bytes) :=
  p.first :: p.more

/-- The lines of the headers. -/
def head (p : SentPart) : Bytes :=
  headerLine p.first ++ (p.more.map headerLine).flatMap (lineEnd ++ ·)

/-- The part that is received. -/
def part (p : SentPart) : Part :=
  partOf (p.headers.map received) p.content

/-- What is sent behind a boundary: the parts, each with a boundary behind it, and then the end. -/
def written (boundary : Bytes) : List SentPart → Bytes
  | [] => hyphens ++ lineEnd
  | p :: more =>
    lineEnd ++ (p.head ++ (lineEnd ++ lineEnd ++
      (p.content ++ (lineEnd ++ hyphens ++ boundary ++ written boundary more))))

/-- The part is read as it is sent. -/
structure Fits (boundary : Bytes) (p : SentPart) : Prop where
  headers : ∀ header ∈ p.headers, IsHeader header
  length_le : p.headers.length ≤ mostHeaders
  content : ¬ lineEnd ++ hyphens ++ boundary <:+: p.content

variable {boundary : Bytes} {p : SentPart}

theorem Fits.isHeadLine (h : p.Fits boundary) :
    ∀ line ∈ p.headers.map headerLine, IsHeadLine line :=
  List.forall_mem_map.2 fun header hheader => (h.headers header hheader).isHeadLine_headerLine

theorem Fits.headers?_head (h : p.Fits boundary) :
    headers? p.head = some (p.headers.map received) := by
  have hlines : Multipart.lines [] (p.head ++ lineEnd) = p.headers.map headerLine ++ [[]] := by
    rw [head, List.append_assoc, append_flatMap_lineEnd]
    exact lines_flatMap h.isHeadLine
  have hwhile : (p.headers.map headerLine ++ [[]]).takeWhile (!·.isEmpty) =
      p.headers.map headerLine := by
    have hall : ∀ line ∈ p.headers.map headerLine, (!line.isEmpty) = true := fun line hline => by
      simpa using (h.isHeadLine line hline).ne_nil
    rw [List.takeWhile_append_of_pos hall, List.takeWhile_cons_of_neg (by decide),
      List.append_nil]
  rw [headers?, hlines, hwhile, mapM_header? h.headers]
  simp only [List.length_map, h.length_le, if_true]

theorem Fits.cut?_head (h : p.Fits boundary) (body : Bytes) :
    cut? (lineEnd ++ lineEnd) (p.head ++ (lineEnd ++ lineEnd ++ body)) = some (p.head, body) := by
  rw [head, List.append_assoc]
  exact Multipart.cut?_head h.isHeadLine body

theorem Fits.cut?_content (h : p.Fits boundary) (hboundary : 0x0D ∉ boundary) (behind : Bytes) :
    cut? (lineEnd ++ hyphens ++ boundary)
        (p.content ++ (lineEnd ++ hyphens ++ boundary ++ behind)) =
      some (p.content, behind) := by
  have hc : 0x0D ∉ (0x0A :: hyphens ++ boundary : Bytes) := by
    simp only [List.mem_append, List.mem_cons, hboundary, or_false]
    decide
  exact cut?_append hc h.content

theorem Fits.part?_written (h : p.Fits boundary) (hboundary : 0x0D ∉ boundary)
    (more : List SentPart) :
    part? boundary (written boundary (p :: more)) = some (p.part, written boundary more) := by
  rw [written, part?]
  have hblank : ∀ rest : Bytes, (lineEnd ++ rest).dropWhile isBlank = 0x0D :: 0x0A :: rest :=
    fun rest => rfl
  rw [hblank]
  simp only [h.cut?_head, h.headers?_head, h.cut?_content hboundary]
  rfl

end SentPart

namespace Upload

variable {boundary bytes behind : Bytes}

theorem ofRest_of_part? {part : Part} (hend : ¬ hyphens <+: bytes)
    (h : part? boundary bytes = some (part, behind)) :
    ofRest boundary bytes =
      ⟨part :: (ofRest boundary behind).parts, (ofRest boundary behind).complete⟩ := by
  rw [ofRest, if_neg (by rwa [List.isPrefixOf_iff_prefix])]
  split
  · rename_i heq
    obtain ⟨rfl, rfl⟩ := Prod.mk.inj (Option.some.inj (h.symm.trans heq))
    rfl
  · rename_i heq
    exact absurd (h.symm.trans heq) (by simp)

/-- The parts behind a boundary are those that were sent, in their order. -/
theorem ofRest_written (hboundary : 0x0D ∉ boundary) {sent : List SentPart}
    (h : ∀ p ∈ sent, p.Fits boundary) :
    ofRest boundary (SentPart.written boundary sent) = ⟨sent.map SentPart.part, true⟩ := by
  induction sent with
  | nil =>
    rw [SentPart.written, ofRest, if_pos (by decide)]
    rfl
  | cons p more ih =>
    rw [List.forall_mem_cons] at h
    have hend : ¬ hyphens <+: SentPart.written boundary (p :: more) := by
      rintro ⟨rest, hrest⟩
      exact absurd (List.cons.inj hrest).1 (by decide)
    rw [ofRest_of_part? hend (h.1.part?_written hboundary more), ih h.2]
    rfl

theorem ofBytes_sent (hboundary : 0x0D ∉ boundary) {sent : List SentPart}
    (h : ∀ p ∈ sent, p.Fits boundary) :
    ofBytes boundary (hyphens ++ boundary ++ SentPart.written boundary sent) =
      ⟨sent.map SentPart.part, true⟩ := by
  rw [ofBytes, cut?_self_append (List.append_ne_nil_of_left_ne_nil (by decide) _)]
  exact ofRest_written hboundary h

end Upload

end LoadTest
