import LoadTest.Proofs.Json.Documents

/-!
# Shapes read back

Texts, numbers, names and lists are read as what was written. A double has to be finite, since no
other double has a spelling.

The fields of a record follow: one that is always written, one that may be left out, and a list
that is left out when it is empty.
-/

namespace LoadTest.Json

variable {α : Type} {k : ℕ}

namespace Decoder

theorem recovers_text (s : String) : Decoder.text.Recovers k (.text s) s :=
  ⟨fits_text s, rfl, by simp [Value.tree, text]⟩

theorem recovers_uint32 (n : UInt32) : uint32.Recovers k (.ofUInt32 n) n := by
  refine ⟨fits_number _, rfl, ?_⟩
  have hn : n.toNat < 2 ^ 32 := n.toNat_lt
  simp only [uint32, Value.ofUInt32, Value.tree, naturalBelow, UInt32.toNat_toUInt64, if_pos hn,
    Except.map, UInt32.ofNat_toNat]

theorem recovers_uint64 (n : UInt64) : uint64.Recovers k (.ofUInt64 n) n := by
  refine ⟨fits_number _, rfl, ?_⟩
  have hn : n.toNat < 2 ^ 64 := n.toNat_lt
  simp only [uint64, Value.ofUInt64, Value.tree, naturalBelow, if_pos hn, Except.map,
    UInt64.ofNat_toNat]

theorem recovers_int64 (n : Int64) : int64.Recovers k (.ofInt64 n) n := by
  refine ⟨fits_number _, rfl, ?_⟩
  have hlower := n.le_toInt
  have hupper := n.toInt_lt
  have hback := Int64.ofInt_toInt n
  simp only [Value.ofInt64, Value.tree, Number.ofInt64]
  rcases hn : n.toInt with m | below
  · rw [hn] at hupper hback
    have hm : m < 2 ^ 63 := by simpa using hupper
    have htoNat : (UInt64.ofNat m).toNat = m :=
      UInt64.toNat_ofNat_of_lt (hm.trans (by decide))
    rw [Int.ofNat_eq_natCast, Int64.ofInt_eq_ofNat] at hback
    simp only [int64, htoNat, if_pos hm, hback]
  · rw [hn] at hlower hback
    have hbelow : below < 2 ^ 63 := by omega
    simp only [int64, Fin.ofNat, Nat.mod_eq_of_lt hbelow, hback]

theorem recovers_binary64 {x : Binary64} (hx : x.isFinite = true) :
    binary64.Recovers k (.ofBinary64 x) x := by
  cases x with
  | finite x => exact ⟨fits_number _, rfl, by simp [Value.ofBinary64, Value.tree, binary64,
      Number.toBinary64]⟩
  | nan => cases hx
  | infinite negative => cases hx

theorem recovers_variant {known : List (String × α)} {name : String} {a : α}
    (h : Entries.get? name known = some a) : (variant known).Recovers k (.text name) a :=
  ⟨fits_text name, rfl, by simp [Value.tree, variant, ofName, h]⟩

theorem recovers_list {decode : Decoder α} {encode : α → Value} {as : List α}
    (h : ∀ a ∈ as, decode.Recovers k (encode a) a) :
    (list decode).Recovers (k + 1) (.array (as.map encode)) as := by
  have hitems : items decode (itemTrees (as.map encode)) = .ok as := by
    induction as with
    | nil => rfl
    | cons a as ih =>
      rw [List.map_cons, itemTrees, items, (h a List.mem_cons_self).read,
        ih fun b hb => h b (List.mem_cons_of_mem _ hb)]
      rfl
  refine ⟨fits_array fun v hv => ?_, rfl, ?_⟩
  · obtain ⟨a, ha, rfl⟩ := List.mem_map.1 hv
    exact (h a ha).fits
  · rw [Value.tree, list, hitems]
    rfl

theorem Recovers.option {decode : Decoder α} {v : Value} {a : α} (h : decode.Recovers k v a) :
    (Decoder.option decode).Recovers k v (some a) := by
  refine ⟨h.fits, h.notNull, ?_⟩
  have hread := h.read
  have hnull := h.notNull
  cases v <;> simp_all [Value.tree, Decoder.option, Value.isNull, Except.map]

theorem Recovers.listOrNull {decode : Decoder α} {v : Value} {as : List α}
    (h : (list decode).Recovers k v as) : (Decoder.listOrNull decode).Recovers k v as := by
  refine ⟨h.fits, h.notNull, ?_⟩
  rw [Decoder.listOrNull, h.option.read]
  rfl

/-- The whole document is read, in whatever layout it is. -/
theorem Recovers.ofChars_chars {decode : Decoder α} {v : Value} {a : α} (h : decode.Recovers k v a)
    (hk : k ≤ 127) {layout : Layout} (hl : layout.IsBlank) :
    decode.ofChars (v.chars layout 0) = .ok a := by
  rw [ofChars_of_isDocument decode (isDocument_chars hl (h.fits.depth.trans hk) 0), h.read]

end Decoder

namespace Member

variable {name : String} {decode : Decoder α}

theorem reads_required {v : Value} {a : α} (h : decode.Recovers k v a) :
    (required name decode).Reads k (some v) a :=
  ⟨h.fits, h.read⟩

/-- A field that is left out stands for `default`. -/
theorem reads_withDefault {found : Option Value} {a default : α}
    (h : ∀ v ∈ found, decode.Recovers k v a) (hdefault : found = none → a = default) :
    (withDefault name decode default).Reads k found a := by
  cases found with
  | none => rw [hdefault rfl]; rfl
  | some v => exact ⟨(h v rfl).fits, (h v rfl).read⟩

theorem reads_option {encode : α → Value} {o : Option α}
    (h : ∀ a ∈ o, decode.Recovers k (encode a) a) :
    (withDefault name (.option decode) none).Reads k (o.map encode) o := by
  cases o with
  | none => rfl
  | some a => exact ⟨(h a rfl).fits, (h a rfl).option.read⟩

/-- A list that is written even when it is empty. -/
theorem reads_list {encode : α → Value} {as : List α}
    (h : ∀ a ∈ as, decode.Recovers k (encode a) a) :
    (withDefault name (.listOrNull decode) []).Reads (k + 1)
      (some (.array (as.map encode))) as :=
  ⟨(Decoder.recovers_list h).fits, (Decoder.recovers_list h).listOrNull.read⟩

theorem reads_listOrNull {encode : α → Value} {as : List α}
    (h : ∀ a ∈ as, decode.Recovers k (encode a) a) :
    (withDefault name (.listOrNull decode) []).Reads (k + 1)
      (if (as.map encode).isEmpty then none else some (.array (as.map encode))) as := by
  refine reads_withDefault (fun v hv => ?_) fun hnone => ?_
  · have hv : Value.array (as.map encode) = v := by
      split_ifs at hv
      · cases hv
      · exact Option.some.inj hv
    rw [← hv]
    exact (Decoder.recovers_list h).listOrNull
  · simpa using hnone

end Member

end LoadTest.Json
