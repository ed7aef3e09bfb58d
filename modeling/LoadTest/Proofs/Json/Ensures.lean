import LoadTest.Json.Document
import LoadTest.Proofs.Number.Order

/-!
# What every result has in common

Whatever a decoder makes of a tree, intact or not, may have a property (`Decoder.Ensures`). A record
has it when its members have theirs: a member adds an argument to the function that builds the
record, and the property is asked of the function once every argument is in place
(`Record.Ensures.andMember`).

Numbers are finite wherever they are read (`Decoder.ensures_binary64`).
-/

namespace LoadTest.Json

variable {α β : Type} {p : α → Prop} {q : β → Prop}

/-- All that the decoder makes of trees has this property. -/
def Decoder.Ensures (decode : Decoder α) (p : α → Prop) : Prop :=
  ∀ t a, decode t = .ok a → p a

theorem ok_of_map {ε : Type} {x : Except ε α} {f : α → β} {b : β} (h : x.map f = .ok b) :
    ∃ a, x = .ok a ∧ f a = b := by
  cases x with
  | error e => cases h
  | ok a => exact ⟨a, rfl, Except.ok.inj h⟩

theorem ok_of_bind {ε : Type} {x : Except ε α} {f : α → Except ε β} {b : β}
    (h : x >>= f = .ok b) : ∃ a, x = .ok a ∧ f a = .ok b := by
  cases x with
  | error e => cases h
  | ok a => exact ⟨a, rfl, h⟩

/-- A number of a document is never infinite. -/
theorem Number.isFinite_toBinary64 (n : Number) : n.toBinary64.isFinite = true := by
  have hnat : ∀ m ≤ 2 ^ 64, (Binary64.ofNat m).isFinite = true := by
    intro m hm
    have hl : Binary64.IsMagnitude (1 * 2 ^ 64 * Binary64.one) :=
      Binary64.isMagnitude_mul_one (by decide) (by decide)
    exact (Binary64.within_ofNat hl (Nat.mul_le_mul_right _ (by omega))).isFinite
  cases n with
  | natural n => exact hnat _ n.toNat_lt.le
  | negative below =>
    have hbelow := below.isLt
    have hfinite := hnat (below.val + 1) (by omega)
    rw [toBinary64]
    cases hx : Binary64.ofNat (below.val + 1) with
    | finite x => rfl
    | _ => rw [hx] at hfinite; cases hfinite
  | real x => rfl

namespace Decoder

variable {decode : Decoder α}

theorem ensures_true (decode : Decoder α) : decode.Ensures fun _ => True :=
  fun _ _ _ => trivial

theorem ensures_binary64 : binary64.Ensures fun x => x.isFinite = true := by
  intro t x h
  unfold binary64 at h
  split at h
  · obtain rfl := Except.ok.inj h
    exact Number.isFinite_toBinary64 _
  · cases h

theorem Ensures.option (hdecode : decode.Ensures p) :
    (Decoder.option decode).Ensures fun o => ∀ a ∈ o, p a := by
  intro t o h a ha
  unfold Decoder.option at h
  split at h
  · obtain rfl := Except.ok.inj h
    cases ha
  · obtain ⟨b, hb, rfl⟩ := ok_of_map h
    obtain rfl := Option.some.inj ha
    exact hdecode _ _ hb

theorem Ensures.ofChars (hdecode : decode.Ensures p) {cs : List Char} {a : α}
    (h : decode.ofChars cs = .ok a) : p a := by
  unfold Decoder.ofChars at h
  obtain ⟨b, hread, h⟩ := ok_of_bind h
  split_ifs at h
  · obtain rfl := Except.ok.inj h
    exact hdecode _ _ hread

end Decoder

/-- All that the member is read as has this property, and so has what stands for it. -/
structure Member.Ensures (m : Member α) (p : α → Prop) : Prop where
  decode : m.decode.Ensures p
  absent : ∀ a ∈ m.absent, p a
  beyond : ∀ a ∈ m.beyond, p a

theorem Member.ensures_optional {decode : Decoder α} (hdecode : decode.Ensures p) (name : String) :
    (Member.optional name decode).Ensures fun o => ∀ a ∈ o, p a where
  decode := hdecode.option
  absent := by simp [Member.optional]
  beyond := by simp [Member.optional]

/-- All that the record is built as has this property, whatever is found of its members. -/
def Record.Ensures (r : Record α) (p : α → Prop) : Prop :=
  ∀ form find a, r.build form find = .ok a → p a

namespace Record

theorem ensures_pure {a : α} (h : p a) : (Record.pure a).Ensures p := by
  rintro form find b hb
  obtain rfl := Except.ok.inj hb
  exact h

theorem ensures_ofMember {m : Member α} (hm : m.Ensures p) : (ofMember m).Ensures p := by
  intro form find a h
  simp only [ofMember] at h
  split at h
  case h_1 t _ =>
    cases hread : m.decode t with
    | error fault => rw [hread] at h; cases h
    | ok b =>
      rw [hread] at h
      obtain rfl := Except.ok.inj h
      exact hm.decode _ _ hread
  case h_2 =>
    split at h
    case h_1 b hb =>
      obtain rfl := Except.ok.inj h
      cases form
      · exact hm.absent _ hb
      · exact hm.beyond _ hb
    case h_2 => cases h

/-- The function before has to give the property for every argument that the member may be. -/
theorem Ensures.andMember {f : Record (α → β)} {m : Member α}
    (hf : f.Ensures fun g => ∀ a, p a → q (g a)) (hm : m.Ensures p) :
    (f.andMember m).Ensures q := by
  intro form find b h
  simp only [Record.andMember, seq] at h
  obtain ⟨g, hg, h⟩ := ok_of_bind h
  obtain ⟨a, ha, h⟩ := ok_of_bind h
  obtain rfl := Except.ok.inj h
  exact hf _ _ _ hg _ (ensures_ofMember hm _ _ _ ha)

theorem Ensures.ofTree {r : Record α} (hr : r.Ensures p) (title : String) :
    (r.ofTree title).Ensures p := by
  intro t a h
  unfold Record.ofTree at h
  split at h
  case h_1 members closed =>
    obtain ⟨-, -, h⟩ := ok_of_bind h
    simp only [] at h
    split at h
    · cases h
    split at h
    case h_1 b hbuild =>
      obtain rfl := Except.ok.inj h
      exact hr _ _ _ hbuild
    all_goals cases h
  case h_2 items closed =>
    obtain ⟨-, -, h⟩ := ok_of_bind h
    simp only [] at h
    split at h
    · cases h
    split at h
    · cases h
    split at h
    case h_1 b hbuild =>
      obtain rfl := Except.ok.inj h
      exact hr _ _ _ hbuild
    all_goals cases h
  case h_3 => cases h

end Record

/-! ## Members of an object -/

/-- The member is `a` where this is found under its name. -/
def Member.Makes (m : Member α) (found : Option Tree) (a : α) : Prop :=
  match found with
  | some t => m.decode t = .ok a
  | none => m.absent = some a

theorem Member.Makes.unique {m : Member α} {found : Option Tree} {a b : α} (ha : m.Makes found a)
    (hb : m.Makes found b) : a = b := by
  cases found with
  | some t => exact Except.ok.inj (ha.symm.trans hb)
  | none => exact Option.some.inj (ha.symm.trans hb)

/-- Whatever the record is built as from these members has this property. -/
def Record.Gives (r : Record α) (find : String → Option Tree) (p : α → Prop) : Prop :=
  ∀ a, r.build .object find = .ok a → p a

namespace Record

variable {find : String → Option Tree}

theorem Gives.pure {a : α} (h : p a) : (Record.pure a).Gives find p := by
  rintro b ⟨⟩
  exact h

/-- The function before has to give the property for what the member is. -/
theorem Gives.andMember {f : Record (α → β)} {m : Member α}
    (hf : f.Gives find fun g => ∀ a, m.Makes (find m.name) a → q (g a)) :
    (f.andMember m).Gives find q := by
  intro b h
  simp only [Record.andMember, seq] at h
  obtain ⟨g, hg, h⟩ := ok_of_bind h
  obtain ⟨a, ha, h⟩ := ok_of_bind h
  obtain rfl := Except.ok.inj h
  refine hf g hg a ?_
  simp only [ofMember] at ha
  split at ha
  case h_1 t hfind =>
    rw [hfind]
    cases hread : m.decode t with
    | error fault => rw [hread] at ha; cases ha
    | ok a' =>
      rw [hread] at ha
      obtain rfl : a' = a := Except.ok.inj ha
      exact hread
  case h_2 hfind =>
    rw [hfind]
    split at ha
    case h_1 a' habsent => exact habsent.trans (congrArg some (Except.ok.inj ha))
    case h_2 => cases ha

end Record

end LoadTest.Json
