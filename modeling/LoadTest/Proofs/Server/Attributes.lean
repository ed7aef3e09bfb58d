import LoadTest.Proofs.Server.PartText
import LoadTest.Server.Multipart

/-!
# Attributes as they are sent

The boundary that a media type names is read as it is (`MediaType.parameters?_boundary`), and an
attribute of a header is found behind a blank if its name stands nowhere before
(`Multipart.attributeFrom?_append`). Its value is read up to the quotation mark that closes it.
-/

namespace LoadTest

/-! ## Media types with a boundary -/

namespace MediaType

variable {cs : List Char}

theorem toNat_lt_of_isToken {c : Char} (h : isToken c = true) : c.toNat < 0x80 := by
  have hbound : ∀ d : Char, d.toNat < 0x80 → c.val ≤ d.val → c.toNat < 0x80 :=
    fun d hd hle => Nat.lt_of_le_of_lt (UInt32.le_iff_toNat_le.1 hle) hd
  rcases (Bool.or_eq_true _ _).mp h with halphanum | hmember
  · rcases (Bool.or_eq_true _ _).mp halphanum with halpha | hdigit
    · rcases (Bool.or_eq_true _ _).mp halpha with hupper | hlower
      · exact hbound 'Z' (by decide) (of_decide_eq_true hupper).2
      · exact hbound 'z' (by decide) (of_decide_eq_true ((Bool.and_eq_true _ _).mp hlower).2)
    · exact hbound '9' (by decide) (of_decide_eq_true ((Bool.and_eq_true _ _).mp hdigit).2)
  · have hall : ∀ c ∈ "!#$%&'*+-.^_|~\x60".toList, c.toNat < 0x80 := by decide
    exact hall c (List.contains_iff_mem.1 hmember)

/-- Goes on with a value of token characters. -/
theorem Reading.foldl_push_tokens {place : Place} (hplace : place = .valueStart ∨ place = .value)
    (h : ∀ c ∈ cs, isToken c = true) (name value : List Char)
    (done : List (List Char × List Char)) :
    ∃ place' : Place, place'.endsParameter = true ∧
      cs.foldl push ⟨place, name, value, done⟩ = ⟨place', name, cs.reverse ++ value, done⟩ := by
  induction cs generalizing place value with
  | nil => exact ⟨place, by rcases hplace with rfl | rfl <;> rfl, rfl⟩
  | cons c cs ih =>
    rw [List.forall_mem_cons] at h
    have hquote : c ≠ '"' := fun hc => absurd h.1 (by subst hc; decide)
    have hsemicolon : c ≠ ';' := fun hc => absurd h.1 (by subst hc; decide)
    have hnext : place.next c = .value := by
      rcases hplace with rfl | rfl <;> simp [Place.next, Place.ifToken, hquote, hsemicolon, h.1]
    obtain ⟨place', hends, heq⟩ := ih (.inr rfl) h.2 (c :: value)
    refine ⟨place', hends, ?_⟩
    rw [List.foldl_cons, push, hnext, List.reverse_cons, List.append_assoc]
    exact heq

theorem parameters?_boundary (h : ∀ c ∈ cs, isToken c = true) :
    parameters? (" boundary=".toList ++ cs) = some [("boundary".toList, cs)] := by
  obtain ⟨place, hends, hpush⟩ := Reading.foldl_push_tokens (.inl rfl) h
    "boundary".toList.reverse [] []
  have hopen : " boundary=".toList.foldl Reading.push .empty =
    ⟨.valueStart, "boundary".toList.reverse, [], []⟩ := rfl
  rw [parameters?, List.foldl_append, hopen, hpush, Reading.parameters?, Reading.complete,
    if_pos hends]
  simp only [List.append_nil, List.reverse_reverse]
  rfl

theorem ofText?_formData (parameters : String) :
    ofText? ("multipart/form-data;" ++ parameters) =
      (parameters? parameters.toList).map fun parameters =>
        ⟨"multipart".toList, "form-data".toList, [], parameters⟩ := by
  rw [ofText?, String.toList_append]
  rfl

end MediaType

namespace Multipart

variable {name before bytes rest : Bytes} {b : UInt8} {opens : Bool}

theorem mem_bytesOf {s : String} : b ∈ bytesOf s ↔ ∃ c ∈ s.toList, b ∈ String.utf8EncodeChar c := by
  rw [bytesOf_eq_flatMap, List.mem_flatMap]

/-- No line end stands in a boundary. -/
theorem return_notMem_boundary {boundary : String}
    (h : ∀ c ∈ boundary.toList, MediaType.isToken c = true) : 0x0D ∉ bytesOf boundary := by
  intro hreturn
  obtain ⟨c, hmem, hreturn⟩ := mem_bytesOf.1 hreturn
  have hlt : c.val.toNat < 0x80 := MediaType.toNat_lt_of_isToken (h c hmem)
  have hsize : c.utf8Size = 1 :=
    Char.utf8Size_eq_one_iff.2 (UInt32.le_iff_toNat_le.2 (Nat.le_of_lt_succ hlt))
  rw [String.utf8EncodeChar_eq_singleton hsize, List.mem_singleton] at hreturn
  have hval : c.val.toNat = 0x0D := by
    have hmod : (0x0D : UInt8).toNat = c.val.toNat % 256 := by rw [hreturn, UInt32.toNat_toUInt8]
    rw [Nat.mod_eq_of_lt (by omega)] at hmod
    exact hmod.symm
  have hc : c = '\r' := Char.ext (UInt32.toNat_inj.1 hval)
  exact absurd (h '\r' (hc ▸ hmem)) (by decide)

theorem withoutBlanks_eq {e : UInt8} (hb : isBlank b = false) (he : isBlank e = false) :
    withoutBlanks (b :: (bytes ++ [e])) = b :: (bytes ++ [e]) := by
  rw [withoutBlanks, List.dropWhile_cons_of_neg (by simp [hb])]
  simp [he]

/-! ## Attributes -/

theorem prefix_of_prefix_append_cons {α : Type} {b : α} {pattern ys : List α} (xs : List α)
    (hb : b ∉ pattern) (h : pattern <+: xs ++ b :: ys) : pattern <+: xs := by
  induction xs generalizing pattern with
  | nil =>
    cases pattern with
    | nil => exact List.nil_prefix
    | cons c pattern => exact absurd (List.cons_prefix_cons.1 h).1 fun hc => hb (by simp [hc])
  | cons x xs ih =>
    cases pattern with
    | nil => exact List.nil_prefix
    | cons c pattern =>
      obtain ⟨rfl, hprefix⟩ := List.cons_prefix_cons.1 h
      refine List.cons_prefix_cons.2 ⟨rfl, ih (fun hp => hb ?_) hprefix⟩
      exact List.mem_cons_of_mem _ hp

/-- A pattern does not reach over a byte that it does not hold. -/
theorem not_infix_append_cons {α : Type} {b : α} {pattern xs ys : List α} (hb : b ∉ pattern)
    (hxs : ¬ pattern <:+: xs) (hys : ¬ pattern <:+: ys) : ¬ pattern <:+: xs ++ b :: ys := by
  intro h
  induction xs with
  | nil =>
    rcases List.infix_cons_iff.1 h with h | h
    · exact hxs (prefix_of_prefix_append_cons [] hb h).isInfix
    · exact hys h
  | cons x xs ih =>
    rcases List.infix_cons_iff.1 h with h | h
    · exact hxs (prefix_of_prefix_append_cons (x :: xs) hb h).isInfix
    · exact ih (fun hinfix => hxs (List.infix_cons hinfix)) h

theorem attributeFrom?_cons (h : ¬ name <+: b :: rest) :
    attributeFrom? name opens (b :: rest) = attributeFrom? name (isBlank b || b = 0x3B) rest := by
  rw [attributeFrom?, if_neg (by rwa [List.isPrefixOf_iff_prefix])]

theorem attributeFrom?_eq_none (h : ¬ name <:+: bytes) :
    attributeFrom? name opens bytes = none := by
  induction bytes generalizing opens with
  | nil => rw [attributeFrom?]
  | cons b rest ih =>
    rw [attributeFrom?_cons fun hprefix => h hprefix.isInfix,
      ih fun hinfix => h (List.infix_cons hinfix)]

/-- An attribute may start behind a blank. -/
theorem attributeFrom?_append (hb : b ∉ name) (hblank : isBlank b = true)
    (h : ¬ name <:+: before) :
    attributeFrom? name opens (before ++ b :: rest) = attributeFrom? name true rest := by
  induction before generalizing opens with
  | nil =>
    have hprefix : ¬ name <+: b :: rest := fun hprefix =>
      h (prefix_of_prefix_append_cons [] hb hprefix).isInfix
    rw [List.nil_append, attributeFrom?_cons hprefix, hblank, Bool.true_or]
  | cons c before ih =>
    have hprefix : ¬ name <+: c :: (before ++ b :: rest) := fun hprefix =>
      h (prefix_of_prefix_append_cons (c :: before) hb hprefix).isInfix
    rw [List.cons_append, attributeFrom?_cons hprefix,
      ih fun hinfix => h (List.infix_cons hinfix)]

theorem attributeFrom?_self (hne : name ≠ []) :
    attributeFrom? name true (name ++ 0x3D :: 0x22 :: rest) = quoted? rest := by
  obtain ⟨b, name, rfl⟩ := List.exists_cons_of_ne_nil hne
  have hprefix : (b :: name).isPrefixOf (b :: (name ++ 0x3D :: 0x22 :: rest)) = true :=
    List.isPrefixOf_iff_prefix.2 (List.prefix_append (b :: name) _)
  rw [List.cons_append, attributeFrom?, if_pos hprefix, if_pos rfl, List.length_cons,
    Nat.add_sub_cancel, List.drop_left]
  rfl

/-- A byte that stands for itself between quotation marks. -/
def isPlain (b : UInt8) : Bool :=
  isValueByte b && b != 0x22 && b != 0x5C

theorem isPlain_iff : isPlain b = true ↔ isValueByte b = true ∧ b ≠ 0x22 ∧ b ≠ 0x5C := by
  simp [isPlain, and_assoc]

theorem quoted?_append (h : bytes.all isPlain = true) :
    quoted? (bytes ++ 0x22 :: rest) = some bytes := by
  induction bytes with
  | nil => rw [List.nil_append, quoted?]
  | cons b bytes ih =>
    rw [List.all_cons, Bool.and_eq_true, isPlain_iff] at h
    obtain ⟨⟨-, hquote, hbackslash⟩, hbytes⟩ := h
    rw [List.cons_append, quoted?, ih hbytes]
    · rfl
    · exact fun _ hb => absurd hb hbackslash
    · exact hquote

theorem attribute?_eq {name s : String}
    (h : attributeFrom? (bytesOf name) true bytes = some (bytesOf s)) :
    attribute? name bytes = some s := by
  rw [attribute?, h, Option.bind_some, fromUTF8?_bytesOf]

end Multipart

end LoadTest
