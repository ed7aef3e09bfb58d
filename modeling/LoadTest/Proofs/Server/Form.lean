import LoadTest.Proofs.Server.Attributes
import LoadTest.Proofs.Server.SentParts
import Mathlib.Tactic.SplitIfs

/-!
# Forms

A form of any number of fields, each a text that may come from a file, delivers just these fields in
their order (`Request.delivers_form`).
-/

namespace LoadTest

open Multipart

/-! ## Fields -/

/-- A field of a form: a text, which may come from a file. -/
structure FormField where
  name : String
  fileName : Option String
  text : String

namespace FormField

/-- What stands behind the name of a field. -/
def fileAttribute : Option String → String
  | none => ""
  | some fileName => "; filename=\"" ++ fileName ++ "\""

/-- What a field says of itself. -/
def disposition (f : FormField) : Bytes :=
  bytesOf ("form-data; name=\"" ++ f.name ++ "\"" ++ fileAttribute f.fileName)

/-- The field as it is sent. A file is sent as bytes of no particular type. -/
def sent (f : FormField) : SentPart :=
  ⟨(bytesOf "Content-Disposition", f.disposition),
    if f.fileName.isSome then [(bytesOf "Content-Type", bytesOf "application/octet-stream")]
    else [],
    bytesOf f.text⟩

/-- The part that the field is. -/
def part (f : FormField) : Part :=
  ⟨some f.name, f.fileName, .utf8, bytesOf f.text⟩

/-- The field can be told from what stands around it. The name of a file is looked for behind the
first place where the word for it stands, so that the name of the field must not hold that word. -/
structure Fits (boundary : String) (f : FormField) : Prop where
  name : (bytesOf f.name).all isPlain = true
  fileName : ∀ fileName ∈ f.fileName, (bytesOf fileName).all isPlain = true
  apart : ¬ bytesOf "filename" <:+: bytesOf f.name
  text : ¬ lineEnd ++ hyphens ++ bytesOf boundary <:+: bytesOf f.text

instance (boundary : String) (f : FormField) : Decidable (f.Fits boundary) :=
  decidable_of_iff
    ((bytesOf f.name).all isPlain = true ∧
      (∀ fileName ∈ f.fileName, (bytesOf fileName).all isPlain = true) ∧
      ¬ bytesOf "filename" <:+: bytesOf f.name ∧
      ¬ lineEnd ++ hyphens ++ bytesOf boundary <:+: bytesOf f.text)
    ⟨fun ⟨hname, hfile, hapart, htext⟩ => ⟨hname, hfile, hapart, htext⟩,
      fun h => ⟨h.name, h.fileName, h.apart, h.text⟩⟩

variable {boundary : String} {f : FormField}

theorem Fits.isValueByte_disposition (h : f.Fits boundary) :
    ∀ b ∈ f.disposition, isValueByte b = true := by
  have hopen : ∀ b ∈ bytesOf "form-data; name=\"", isValueByte b = true :=
    List.all_eq_true.1 (by decide)
  have hclose : ∀ b ∈ bytesOf "\"", isValueByte b = true := List.all_eq_true.1 (by decide)
  have hfile : ∀ b ∈ bytesOf "; filename=\"", isValueByte b = true :=
    List.all_eq_true.1 (by decide)
  have hplain : ∀ {bytes : Bytes}, bytes.all isPlain = true → ∀ b ∈ bytes, isValueByte b = true :=
    fun h b hb => (isPlain_iff.1 (List.all_eq_true.1 h b hb)).1
  have hattribute : ∀ b ∈ bytesOf (fileAttribute f.fileName), isValueByte b = true := by
    cases hname : f.fileName with
    | none => simp [fileAttribute, bytesOf]
    | some fileName =>
      simp only [fileAttribute, bytesOf_append, List.mem_append]
      rintro b ((hb | hb) | hb)
      · exact hfile b hb
      · exact hplain (h.fileName fileName hname) b hb
      · exact hclose b hb
  simp only [disposition, bytesOf_append, List.mem_append]
  rintro b (((hb | hb) | hb) | hb)
  · exact hopen b hb
  · exact hplain h.name b hb
  · exact hclose b hb
  · exact hattribute b hb

theorem Fits.fits_sent (h : f.Fits boundary) : f.sent.Fits (bytesOf boundary) where
  headers := by
    have hname : ∀ b ∈ bytesOf "Content-Disposition", isNameByte b = true :=
      List.all_eq_true.1 (by decide)
    have hfile : IsHeader (bytesOf "Content-Type", bytesOf "application/octet-stream") :=
      ⟨by decide, List.all_eq_true.1 (by decide), List.all_eq_true.1 (by decide)⟩
    intro header hheader
    rcases List.mem_cons.1 hheader with rfl | hheader
    · exact ⟨(by decide : bytesOf "Content-Disposition" ≠ []), hname, h.isValueByte_disposition⟩
    · simp only [sent] at hheader
      split_ifs at hheader
      · exact List.mem_singleton.1 hheader ▸ hfile
      · exact absurd hheader List.not_mem_nil
  length_le := by
    rw [SentPart.headers, sent]
    split_ifs <;> simp [mostHeaders]
  content := h.text

/-! ## Fields that are received -/

theorem disposition_eq (f : FormField) :
    f.disposition = bytesOf "form-data;" ++ 0x20 :: (bytesOf "name" ++
      0x3D :: 0x22 :: (bytesOf f.name ++ 0x22 :: bytesOf (fileAttribute f.fileName))) := by
  have hopen : bytesOf "form-data; name=\"" =
    bytesOf "form-data;" ++ 0x20 :: (bytesOf "name" ++ [0x3D, 0x22]) := rfl
  have hclose : bytesOf "\"" = [0x22] := rfl
  rw [disposition, bytesOf_append, bytesOf_append, bytesOf_append, hopen, hclose]
  simp only [List.append_assoc, List.cons_append, List.nil_append]

theorem disposition_of_none (hfile : f.fileName = none) :
    f.disposition =
      bytesOf "form-data; name=" ++ 0x22 :: (bytesOf f.name ++ 0x22 :: []) := by
  rw [disposition_eq, hfile]
  rfl

theorem disposition_of_some {fileName : String} (hfile : f.fileName = some fileName) :
    f.disposition =
      (bytesOf "form-data; name=" ++ 0x22 :: (bytesOf f.name ++ 0x22 :: bytesOf ";")) ++
        0x20 :: (bytesOf "filename" ++ 0x3D :: 0x22 :: (bytesOf fileName ++ 0x22 :: [])) := by
  have hopen : bytesOf "; filename=\"" =
    bytesOf ";" ++ 0x20 :: (bytesOf "filename" ++ [0x3D, 0x22]) := rfl
  have hclose : bytesOf "\"" = [0x22] := rfl
  rw [disposition_eq, hfile, fileAttribute, bytesOf_append, bytesOf_append, hopen, hclose]
  simp only [List.append_assoc, List.cons_append, List.nil_append]
  rfl

/-- No blanks are around it. -/
theorem withoutBlanks_disposition (f : FormField) :
    withoutBlanks f.disposition = f.disposition := by
  have hf : bytesOf "form-data; name=" = 0x66 :: bytesOf "orm-data; name=" := rfl
  have hends : ∃ between, f.disposition = 0x66 :: (between ++ [0x22]) := by
    cases hfile : f.fileName with
    | none =>
      refine ⟨bytesOf "orm-data; name=" ++ 0x22 :: bytesOf f.name, ?_⟩
      rw [disposition_of_none hfile, hf]
      simp only [List.append_assoc, List.cons_append]
    | some fileName =>
      refine ⟨(bytesOf "orm-data; name=" ++ 0x22 :: (bytesOf f.name ++ 0x22 :: bytesOf ";")) ++
        0x20 :: (bytesOf "filename" ++ 0x3D :: 0x22 :: bytesOf fileName), ?_⟩
      rw [disposition_of_some hfile, hf]
      simp only [List.append_assoc, List.cons_append]
  obtain ⟨between, hends⟩ := hends
  rw [hends, withoutBlanks_eq (by decide) (by decide)]

theorem Fits.attribute?_name (h : f.Fits boundary) :
    attribute? "name" f.disposition = some f.name := by
  refine attribute?_eq ?_
  rw [disposition_eq, attributeFrom?_append (by decide) (by decide) (by decide),
    attributeFrom?_self (by decide), quoted?_append h.name]

/-- The word for a file name stands nowhere before the file name. -/
theorem Fits.not_infix (h : f.Fits boundary) {bytes : Bytes}
    (hbytes : ¬ bytesOf "filename" <:+: bytes) :
    ¬ bytesOf "filename" <:+:
      bytesOf "form-data; name=" ++ 0x22 :: (bytesOf f.name ++ 0x22 :: bytes) :=
  not_infix_append_cons (by decide) (by decide) (not_infix_append_cons (by decide) h.apart hbytes)

theorem Fits.attribute?_fileName (h : f.Fits boundary) :
    attribute? "filename" f.disposition = f.fileName := by
  cases hfile : f.fileName with
  | none =>
    rw [attribute?, disposition_of_none hfile, attributeFrom?_eq_none (h.not_infix (by decide)),
      Option.bind_none]
  | some fileName =>
    refine attribute?_eq ?_
    rw [disposition_of_some hfile,
      attributeFrom?_append (by decide) (by decide) (h.not_infix (by decide)),
      attributeFrom?_self (by decide), quoted?_append (h.fileName fileName hfile)]

theorem map_received_headers (f : FormField) :
    f.sent.headers.map received =
      (bytesOf "content-disposition", f.disposition) ::
        if f.fileName.isSome then [(bytesOf "content-type", bytesOf "application/octet-stream")]
        else [] := by
  have hdisposition : received (bytesOf "Content-Disposition", f.disposition) =
      (bytesOf "content-disposition", f.disposition) := by
    rw [received, withoutBlanks_disposition]
    rfl
  rw [SentPart.headers, List.map_cons, sent, hdisposition]
  split_ifs <;> rfl

/-- The part that is delivered for a field. -/
theorem Fits.part_sent (h : f.Fits boundary) : f.sent.part = f.part := by
  have hdisposition : value? "content-disposition" (f.sent.headers.map received) =
      some f.disposition := by
    rw [map_received_headers]
    split_ifs <;> rfl
  have hcharset : charsetOf (f.sent.headers.map received) = .utf8 := by
    rw [map_received_headers]
    split_ifs <;> rfl
  rw [SentPart.part, partOf, hdisposition, hcharset, Option.bind_some, Option.bind_some,
    h.attribute?_name, h.attribute?_fileName]
  rfl

end FormField

/-- Uploads a form to be imported. -/
def Request.form (boundary : String) (fields : List FormField) : Request :=
  ⟨"POST", Route.importResult.path, some ("multipart/form-data; boundary=" ++ boundary),
    ⟨(hyphens ++ bytesOf boundary ++
      SentPart.written (bytesOf boundary) (fields.map FormField.sent)).toArray⟩⟩

/-- A request that is not too large, and what parts it brings to be imported. -/
structure Request.Delivers (limit : Nat) (r : Request) (parts : List Part) : Prop where
  method_eq : r.method = "POST"
  route_eq : Route.ofTarget? r.target = some .importResult
  size_le : r.body.size ≤ limit
  upload : ∃ boundary, Server.boundary? r = some boundary ∧
    Upload.ofBytes boundary r.body.data.toList = ⟨parts, true⟩

section Form

variable {boundary : String} {fields : List FormField}

theorem Server.boundary?_form (h : ∀ c ∈ boundary.toList, MediaType.isToken c = true) :
    Server.boundary? (.form boundary fields) = some (bytesOf boundary) := by
  have htype : MediaType.ofText? ("multipart/form-data; boundary=" ++ boundary) =
      some ⟨"multipart".toList, "form-data".toList, [],
        [("boundary".toList, boundary.toList)]⟩ := by
    have hsplit : "multipart/form-data; boundary=" = "multipart/form-data;" ++ " boundary=" := rfl
    rw [hsplit, String.append_assoc, MediaType.ofText?_formData, String.toList_append,
      MediaType.parameters?_boundary h]
    rfl
  simp only [Server.boundary?, Request.form, Option.bind_some, htype]
  change some (bytesOf (String.ofList boundary.toList)) = _
  rw [String.ofList_toList]

theorem Request.delivers_form {limit : Nat}
    (hboundary : ∀ c ∈ boundary.toList, MediaType.isToken c = true)
    (hfields : ∀ f ∈ fields, f.Fits boundary)
    (hsize : (Request.form boundary fields).body.size ≤ limit) :
    (Request.form boundary fields).Delivers limit (fields.map FormField.part) where
  method_eq := rfl
  route_eq := Route.ofTarget?_path .importResult
  size_le := hsize
  upload := by
    refine ⟨bytesOf boundary, Server.boundary?_form hboundary, ?_⟩
    have hsent : ∀ p ∈ fields.map FormField.sent, p.Fits (bytesOf boundary) := by
      intro p hp
      obtain ⟨f, hf, rfl⟩ := List.mem_map.1 hp
      exact (hfields f hf).fits_sent
    have hpart : (fields.map FormField.sent).map SentPart.part = fields.map FormField.part := by
      rw [List.map_map]
      exact List.map_congr_left fun f hf => (hfields f hf).part_sent
    rw [← hpart]
    exact Upload.ofBytes_sent (return_notMem_boundary hboundary) hsent

end Form

end LoadTest
