import LoadTest.Proofs.Json.Decode

/-!
# Configurations read back

A configuration whose think time is finite is read back from its document
(`TestConfig.recovers_toJson`), and any other one without its think time
(`TestConfig.recovers_spelled`). A numeric field of a form gives the number it was written with, and
headers keep their order, since their names are distinct.
-/

namespace LoadTest

open Json (Decoder Member Record Value)
open Json.Member

/-! ## Headers -/

namespace Json.Decoder

theorem values_memberTrees : ∀ members : Entries Value,
    values (memberTrees members) = .ok (membersJoined members)
  | [] => rfl
  | (name, v) :: members => by
    simp only [memberTrees, values, value, value?_tree_joined, values_memberTrees members,
      membersJoined]
    rfl

theorem members_memberTrees (members : Entries Value) :
    Decoder.members (.object (memberTrees members) true) =
      .ok (Entries.ofList (membersJoined members)) := by
  rw [Decoder.members, values_memberTrees]
  rfl

theorem members_object {members : Entries Value} (h : (Value.object members).Distinct) :
    Decoder.members (Value.object members).tree = .ok members := by
  simp only [Value.Distinct] at h
  rw [Value.tree, members_memberTrees, membersJoined_eq_self h.2, Entries.ofList_eq_self h.1]

end Json.Decoder

namespace Headers

theorem ofMembers_texts (headers : Headers) :
    ofMembers (headers.entries.map fun entry => (entry.1, .text entry.2)) = headers := by
  have hvalues : ∀ entries : Entries String,
      (entries.map fun entry => (entry.1, Value.text entry.2)).filterMap
        (fun member => (valueText? member.2).map (member.1, ·)) = entries := by
    intro entries
    induction entries with
    | nil => rfl
    | cons entry entries ih => simp [valueText?]
  obtain ⟨entries, hn⟩ := headers
  simp only [ofMembers, ofList, hvalues, Entries.ofList_eq_self hn]

theorem recovers_toJson {k : ℕ} (headers : Headers) :
    decoder.Recovers (k + 1) headers.toJson headers := by
  have hfits : headers.toJson.Fits (k + 1) := by
    refine Json.fits_object ?_ fun member hm => ?_
    · simpa [Entries.names, Function.comp_def] using headers.distinct
    · obtain ⟨entry, -, rfl⟩ := List.mem_map.1 hm
      exact Json.fits_text _
  refine ⟨hfits, rfl, ?_⟩
  have hmembers := Json.Decoder.members_object hfits.distinct
  have hoption : Json.Decoder.option Json.Decoder.members headers.toJson.tree =
      .ok (some (headers.entries.map fun entry => (entry.1, .text entry.2))) := by
    rw [toJson, Value.tree, Json.Decoder.option, ← Value.tree, hmembers]
    · rfl
    · rintro ⟨⟩
  rw [decoder, hoption]
  simp only [Except.map, Option.getD_some, ofMembers_texts]

end Headers

/-! ## Numeric fields -/

section Form

variable {α : Type} {k : ℕ} {name : String}

theorem recovers_formNumber {ofNumber : Json.Number → Option α} {ofChars : List Char → Option α}
    {n : Json.Number} {a : α} (h : ofNumber n = some a) :
    (formNumber ofNumber ofChars).Recovers k (.number n) (some a) := by
  refine ⟨Json.fits_number n, rfl, ?_⟩
  simp [formNumber, Json.Decoder.value, Value.tree, Json.Tree.value?, Except.map, h]

theorem recovers_formUInt32 (n : UInt32) : formUInt32.Recovers k (.ofUInt32 n) (some n) := by
  refine recovers_formNumber ?_
  have hn : n.toNat < 2 ^ 32 := n.toNat_lt
  simp only [UInt32.toNat_toUInt64, if_pos hn, UInt32.toUInt32_toUInt64]

theorem recovers_formUInt64 (n : UInt64) : formUInt64.Recovers k (.ofUInt64 n) (some n) :=
  recovers_formNumber rfl

theorem recovers_formBinary64 {x : Binary64} (hx : x.isFinite = true) :
    formBinary64.Recovers k (.ofBinary64 x) (some x) := by
  cases x with
  | finite x => exact recovers_formNumber rfl
  | nan => cases hx
  | infinite negative => cases hx

/-- A field of a form reads what it was written with, and nothing where it was left out. -/
theorem reads_form {decode : Decoder (Option α)} {encode : α → Value} {o : Option α}
    (h : ∀ a ∈ o, decode.Recovers k (encode a) (some a)) :
    (withDefault name decode none).Reads k (o.map encode) o := by
  cases o with
  | none => rfl
  | some a => exact ⟨(h a rfl).fits, (h a rfl).read⟩

end Form

/-! ## Stages and configurations -/

theorem Stage.recovers_toJson {k : ℕ} (s : Stage) : decoder.Recovers (k + 1) s.toJson s := by
  refine Record.recovers_present
    [("duration", some (.text s.duration)), ("target", some (.ofUInt32 s.target))] _
    (by decide) rfl ?_
  exact (Record.Reads.pure Stage.mk)
    |>.andMember (reads_required (Decoder.recovers_text s.duration))
    |>.andMember (reads_required (Decoder.recovers_uint32 s.target))

namespace TestConfig

/-- The members of the document and what they hold. -/
def fields (c : TestConfig) : Entries (Option Value) :=
  [("testType", some (.text c.testType.id)), ("executor", some (.text c.executor.id)),
    ("endpoint", some (.text c.endpoint)), ("method", some (.text c.method.id)),
    ("headers", if c.headers.isEmpty then none else some c.headers.toJson),
    ("body", c.body.map .text), ("vus", c.vus.map .ofUInt32), ("duration", c.duration.map .text),
    ("stages", if (c.stages.map Stage.toJson).isEmpty then none
      else some (.array (c.stages.map Stage.toJson))),
    ("iterations", c.iterations.map .ofUInt64), ("rate", c.rate.map .ofUInt64),
    ("timeUnit", c.timeUnit.map .text), ("preAllocatedVUs", c.preAllocatedVus.map .ofUInt32),
    ("maxVUs", c.maxVus.map .ofUInt32),
    ("checks", if (c.checks.map Value.text).isEmpty then none
      else some (.array (c.checks.map Value.text))),
    ("thinkTime", c.thinkTime.map .ofBinary64)]

theorem toJson_eq (c : TestConfig) : c.toJson = .object (Json.present c.fields) := by
  simp only [toJson, fields, Json.present_cons, Json.present_nil, Json.given_some,
    Json.givenItems_eq, List.append_assoc, List.append_nil, List.cons_append, List.nil_append]

/-- The think time has a spelling. -/
def IsFinite (c : TestConfig) : Prop :=
  ∀ x ∈ c.thinkTime, x.isFinite = true
deriving Decidable

/-- What is left of a configuration in its document. -/
def spelled (c : TestConfig) : TestConfig :=
  { c with thinkTime := c.thinkTime.filter Binary64.isFinite }

theorem spelled_eq_self {c : TestConfig} (hc : c.IsFinite) : c.spelled = c := by
  have hthink : ∀ o : Option Binary64, (∀ x ∈ o, x.isFinite = true) →
      o.filter Binary64.isFinite = o
    | none, _ => rfl
    | some x, hx => Option.filter_some_pos (hx x rfl)
  rw [spelled, hthink c.thinkTime hc]

theorem get?_testType_variants (t : TestType) : Entries.get? t.id TestType.variants = some t := by
  cases t <;> rfl

theorem get?_executor_variants (e : Executor) : Entries.get? e.id Executor.variants = some e := by
  cases e <;> rfl

theorem get?_method_variants (m : Method) : Entries.get? m.id Method.variants = some m := by
  cases m <;> rfl

theorem reads_headers {k : ℕ} (headers : Headers) :
    (withDefault "headers" Headers.decoder .empty).Reads (k + 1)
      (if headers.isEmpty then none else some headers.toJson) headers := by
  refine reads_withDefault (fun v hv => ?_) fun hnone => ?_
  · have hv : headers.toJson = v := by
      split_ifs at hv
      · cases hv
      · exact Option.some.inj hv
    rw [← hv]
    exact headers.recovers_toJson
  · obtain ⟨entries, hn⟩ := headers
    have hentries : entries = [] := by simpa [Headers.isEmpty] using hnone
    subst hentries
    rfl

/-- A think time without a spelling is null, which is read as none. -/
theorem reads_thinkTime {k : ℕ} (thinkTime : Option Binary64) :
    (withDefault "thinkTime" formBinary64 none).Reads k (thinkTime.map .ofBinary64)
      (thinkTime.filter Binary64.isFinite) := by
  rcases thinkTime with _ | x
  · rfl
  by_cases hx : x.isFinite = true
  · rw [Option.filter_some_pos hx]
    exact reads_form fun y hy => recovers_formBinary64 (by cases hy; exact hx)
  · rw [Option.filter_some_neg (by simpa using hx)]
    cases x with
    | finite x => exact absurd rfl hx
    | nan | infinite => exact ⟨Json.fits_null, rfl⟩

theorem recovers_spelled (c : TestConfig) : decoder.Recovers 3 c.toJson c.spelled := by
  rw [toJson_eq]
  refine Record.recovers_present c.fields _ (by decide) rfl ?_
  exact (Record.Reads.pure TestConfig.mk)
    |>.andMember (reads_required (Decoder.recovers_variant (get?_testType_variants c.testType)))
    |>.andMember (reads_required (Decoder.recovers_variant (get?_executor_variants c.executor)))
    |>.andMember (reads_required (Decoder.recovers_text c.endpoint))
    |>.andMember (reads_required (Decoder.recovers_variant (get?_method_variants c.method)))
    |>.andMember (reads_headers c.headers)
    |>.andMember (reads_option fun s _ => Decoder.recovers_text s)
    |>.andMember (reads_form fun n _ => recovers_formUInt32 n)
    |>.andMember (reads_option fun s _ => Decoder.recovers_text s)
    |>.andMember (reads_listOrNull fun s _ => s.recovers_toJson)
    |>.andMember (reads_form fun n _ => recovers_formUInt64 n)
    |>.andMember (reads_form fun n _ => recovers_formUInt64 n)
    |>.andMember (reads_option fun s _ => Decoder.recovers_text s)
    |>.andMember (reads_form fun n _ => recovers_formUInt32 n)
    |>.andMember (reads_form fun n _ => recovers_formUInt32 n)
    |>.andMember (reads_listOrNull fun s _ => Decoder.recovers_text s)
    |>.andMember (reads_thinkTime c.thinkTime)

theorem recovers_toJson {c : TestConfig} (hc : c.IsFinite) : decoder.Recovers 3 c.toJson c := by
  have h := c.recovers_spelled
  rwa [spelled_eq_self hc] at h

end TestConfig

end LoadTest
