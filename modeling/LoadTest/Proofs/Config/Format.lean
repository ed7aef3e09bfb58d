import LoadTest.Proofs.Config.RoundTrip
import LoadTest.Proofs.Json.Accepts

/-!
# The format of configurations

Which objects are configurations (`TestConfig.IsFormat`), and what is said of the others. A name
that is not known is reported first, in the order of executor, test type and method
(`TestConfig.ofValue_object`). Numeric fields and members that no field is named after may hold
anything.
-/

namespace LoadTest

open Json (Decoder Member Record Value)

/-! ## Shapes -/

namespace Json

/-- One of these names, as a text or as the only member of an object. -/
def IsName (names : List String) (v : Value) : Prop :=
  ∃ name ∈ names, v = .text name ∨ v = .object [(name, .null)]

/-- Some text. -/
def IsText (v : Value) : Prop :=
  ∃ s, v = .text s

/-- Some object. -/
def IsObject (v : Value) : Prop :=
  ∃ members, v = .object members

/-- An array of items of one kind. -/
def IsListOf (p : Value → Prop) (v : Value) : Prop :=
  ∃ items, v = .array items ∧ ∀ item ∈ items, p item

/-- Absent, null or of that kind. -/
def MayBe (p : Value → Prop) (found : Option Value) : Prop :=
  ∀ v, found = some v → v = .null ∨ p v

end Json

open Json (IsName IsText IsObject IsListOf MayBe)

/-- An object with a duration and a target, or an array of the two. -/
inductive Stage.IsFormat : Value → Prop where
  | object {members : Entries Value} {duration : String} {target : UInt64}
      (hduration : Entries.get? "duration" members = some (.text duration))
      (htarget : Entries.get? "target" members = some (.number (.natural target)))
      (hbound : target.toNat < 2 ^ 32) : Stage.IsFormat (.object members)
  | array (duration : String) {target : UInt64} (hbound : target.toNat < 2 ^ 32) :
      Stage.IsFormat (.array [.text duration, .number (.natural target)])

/-- What the members of a configuration have to be. -/
structure TestConfig.IsFormat (members : Entries Value) : Prop where
  testType : ∃ v, Entries.get? "testType" members = some v ∧ IsName (TestType.all.map TestType.id) v
  executor : ∃ v, Entries.get? "executor" members = some v ∧ IsName (Executor.all.map Executor.id) v
  endpoint : ∃ v, Entries.get? "endpoint" members = some v ∧ IsText v
  method : ∃ v, Entries.get? "method" members = some v ∧ IsName (Method.all.map Method.id) v
  headers : MayBe IsObject (Entries.get? "headers" members)
  body : MayBe IsText (Entries.get? "body" members)
  duration : MayBe IsText (Entries.get? "duration" members)
  stages : MayBe (IsListOf Stage.IsFormat) (Entries.get? "stages" members)
  timeUnit : MayBe IsText (Entries.get? "timeUnit" members)
  checks : MayBe (IsListOf IsText) (Entries.get? "checks" members)

/-! ## Fields -/

variable {v : Value}

theorem Headers.accepts_decoder (hv : v.Distinct) :
    Headers.decoder.Accepts v ↔ v = .null ∨ IsObject v := by
  have hmembers : Json.Decoder.members.Accepts v ↔ IsObject v := by
    cases v with
    | object members =>
      exact iff_of_true ⟨_, Json.Decoder.members_object hv⟩ ⟨members, rfl⟩
    | _ => simp [Decoder.Accepts, Value.tree, Json.Decoder.members, IsObject]
  unfold Decoder.Accepts Headers.decoder
  rw [Json.exists_map_ok]
  exact Json.Decoder.accepts_option.trans (or_congr_right hmembers)

theorem accepts_formNumber {α : Type} {ofNumber : Json.Number → Option α}
    {ofChars : List Char → Option α} (hv : v.Distinct) :
    (formNumber ofNumber ofChars).Accepts v := by
  unfold Decoder.Accepts formNumber
  rw [Json.exists_map_ok]
  exact ⟨v, by rw [Json.Decoder.value, Json.value?_tree v hv]⟩

/-- Members that are missing have nothing to stand for them, and there are no further ones. -/
theorem Stage.accepts_array {items : List Value} : Stage.decoder.Accepts (.array items) ↔
    ∃ duration target : Value, items = [duration, target] ∧
      Json.Decoder.text.Accepts duration ∧ Json.Decoder.uint32.Accepts target := by
  unfold Decoder.Accepts Stage.decoder Record.ofTree
  rcases items with _ | ⟨duration, _ | ⟨target, rest⟩⟩
  case' cons.nil => cases hduration : Json.Decoder.text duration.tree
  case' cons.cons =>
    cases hduration : Json.Decoder.text duration.tree <;>
      cases htarget : Json.Decoder.uint32 target.tree <;> cases rest
  all_goals
    simp [*, Value.tree, Json.itemTrees, Stage.record, Record.andMember, Record.seq,
      Record.ofMember, Record.pure, Member.required, Record.checkItems, Record.findItem,
      Except.map, Except.mapError, Bind.bind, Except.bind, Pure.pure, Except.pure, throw, throwThe,
      MonadExceptOf.throw]

theorem Stage.accepts_decoder (hv : v.Distinct) : Stage.decoder.Accepts v ↔ Stage.IsFormat v := by
  cases v with
  | object members =>
    have hrecord : Stage.record.Settles _ := (Record.Settles.pure Stage.mk)
      |>.required (fun _ _ => Json.Decoder.accepts_text)
      |>.required (fun _ _ => Json.Decoder.accepts_uint32)
    refine (hrecord.accepts_object "struct Stage" hv).trans ⟨?_, ?_⟩
    · rintro ⟨⟨-, _, hduration, s, rfl⟩, _, htarget, n, hn, rfl⟩
      exact .object hduration htarget hn
    · rintro ⟨hduration, htarget, hn⟩
      exact ⟨⟨trivial, _, hduration, _, rfl⟩, _, htarget, _, hn, rfl⟩
  | array items =>
    rw [Stage.accepts_array]
    simp only [Json.Decoder.accepts_text, Json.Decoder.accepts_uint32]
    constructor
    · rintro ⟨_, _, rfl, ⟨s, rfl⟩, n, hn, rfl⟩
      exact .array s hn
    · intro hformat
      cases hformat with
      | array s hn => exact ⟨_, _, rfl, ⟨s, rfl⟩, _, hn, rfl⟩
  | _ =>
    refine iff_of_false ?_ (by rintro ⟨⟩)
    rintro ⟨a, ha⟩
    cases ha

theorem accepts_listOrNull_text :
    (Json.Decoder.listOrNull .text).Accepts v ↔ v = .null ∨ IsListOf IsText v := by
  rw [Json.Decoder.accepts_listOrNull]
  simp only [Json.Decoder.accepts_text, IsListOf, IsText]

theorem Stage.accepts_listOrNull (hv : v.Distinct) :
    (Json.Decoder.listOrNull Stage.decoder).Accepts v ↔
      v = .null ∨ IsListOf Stage.IsFormat v := by
  rw [Json.Decoder.accepts_listOrNull]
  refine or_congr_right (exists_congr fun items => and_congr_right ?_)
  rintro rfl
  simp only [Value.Distinct] at hv
  exact forall₂_congr fun item hitem =>
    Stage.accepts_decoder (Json.distinct_of_mem_items hv item hitem)

/-! ## Configurations -/

namespace TestConfig

variable {members : Entries Value}

/-- The decoder accepts the format and nothing else. -/
theorem accepts_decoder (h : (Value.object members).Distinct) :
    decoder.Accepts (.object members) ↔ IsFormat members := by
  have htext : ∀ v : Value, v.Distinct →
      ((Json.Decoder.option .text).Accepts v ↔ v = .null ∨ IsText v) := fun _ _ =>
    Json.Decoder.accepts_option.trans (or_congr_right Json.Decoder.accepts_text)
  have hnumber : ∀ {α : Type} {ofNumber : Json.Number → Option α}
      {ofChars : List Char → Option α} (v : Value), v.Distinct →
      ((formNumber ofNumber ofChars).Accepts v ↔ True) := fun _ hv =>
    iff_true_intro (accepts_formNumber hv)
  have hrecord : record.Settles _ := (Record.Settles.pure TestConfig.mk)
    |>.required (fun _ _ => Json.Decoder.accepts_variant)
    |>.required (fun _ _ => Json.Decoder.accepts_variant)
    |>.required (fun _ _ => Json.Decoder.accepts_text)
    |>.required (fun _ _ => Json.Decoder.accepts_variant)
    |>.withDefault (fun _ hv => Headers.accepts_decoder hv)
    |>.withDefault htext
    |>.withDefault hnumber
    |>.withDefault htext
    |>.withDefault (fun _ hv => Stage.accepts_listOrNull hv)
    |>.withDefault hnumber
    |>.withDefault hnumber
    |>.withDefault htext
    |>.withDefault hnumber
    |>.withDefault hnumber
    |>.withDefault (fun _ _ => accepts_listOrNull_text)
    |>.withDefault hnumber
  refine (hrecord.accepts_object "struct TestConfig" h).trans ⟨?_, fun hf => ?_⟩
  · rintro ⟨⟨⟨⟨⟨⟨⟨⟨⟨⟨⟨⟨⟨⟨⟨⟨-, htestType⟩, hexecutor⟩, hendpoint⟩, hmethod⟩, hheaders⟩, hbody⟩, -⟩,
      hduration⟩, hstages⟩, -⟩, -⟩, htimeUnit⟩, -⟩, -⟩, hchecks⟩, -⟩
    exact ⟨htestType, hexecutor, hendpoint, hmethod, hheaders, hbody, hduration, hstages,
      htimeUnit, hchecks⟩
  · have hnone : ∀ {name : String} (v : Value), Entries.get? name members = some v → True :=
      fun _ _ => trivial
    exact ⟨⟨⟨⟨⟨⟨⟨⟨⟨⟨⟨⟨⟨⟨⟨⟨trivial, hf.testType⟩, hf.executor⟩, hf.endpoint⟩, hf.method⟩,
      hf.headers⟩, hf.body⟩, hnone⟩, hf.duration⟩, hf.stages⟩, hnone⟩, hnone⟩, hf.timeUnit⟩, hnone⟩,
      hnone⟩, hf.checks⟩, hnone⟩

/-! ## Names that are not known -/

/-- A text under that name is one of these. -/
def Recognised (members : Entries Value) (name : String) (ids : List String) : Prop :=
  ∀ s, Entries.get? name members = some (.text s) → s ∈ ids

theorem isSome_find?_id {α : Type} {all : List α} {id : α → String} {s : String} :
    (all.find? fun a => id a == s).isSome = true ↔ s ∈ all.map id := by
  rw [List.find?_isSome, List.mem_map]
  simp

section CheckName

variable {α : Type} {all : List α} {id : α → String} {name : String} {fault : String → Error}

theorem checkName_recognised (h : Recognised members name (all.map id)) :
    checkName (.object members) name (fun s => all.find? fun a => id a == s) fault = .ok () := by
  unfold checkName Value.get?
  simp only []
  split
  · rename_i s hs
    obtain ⟨v, hv, htext⟩ := Option.bind_eq_some_iff.1 hs
    cases v with
    | text s' =>
      cases htext
      rw [if_pos (isSome_find?_id.2 (h s hv))]
    | _ => cases htext
  · rfl

theorem checkName_unknown {s : String} (hs : Entries.get? name members = some (.text s))
    (hunknown : s ∉ all.map id) :
    checkName (.object members) name (fun s => all.find? fun a => id a == s) fault =
      .error (fault s) := by
  unfold checkName Value.get?
  simp only [hs, Option.bind_some, Value.text?]
  rw [if_neg fun h => hunknown (isSome_find?_id.1 h)]

end CheckName

/-- What is said of an object: the first name that is not known, and otherwise whether the object
has the format. -/
theorem ofValue_object (h : (Value.object members).Distinct) :
    (∀ s, Entries.get? "executor" members = some (.text s) → s ∉ Executor.all.map Executor.id →
      ofValue (.object members) = .error (.unknownExecutor s)) ∧
    (Recognised members "executor" (Executor.all.map Executor.id) →
      (∀ s, Entries.get? "testType" members = some (.text s) → s ∉ TestType.all.map TestType.id →
        ofValue (.object members) = .error (.unknownTestType s)) ∧
      (Recognised members "testType" (TestType.all.map TestType.id) →
        (∀ s, Entries.get? "method" members = some (.text s) → s ∉ Method.all.map Method.id →
          ofValue (.object members) = .error (.unknownMethod s)) ∧
        (Recognised members "method" (Method.all.map Method.id) →
          ((∃ c, ofValue (.object members) = .ok c) ↔ IsFormat members) ∧
          (¬ IsFormat members →
            ∃ fault, ofValue (.object members) = .error (.wrongShape fault))))) := by
  refine ⟨fun s hs hunknown => ?_, fun hexecutor => ?_⟩
  · have hcheck : checkName (.object members) "executor" Executor.ofId? .unknownExecutor =
        .error (.unknownExecutor s) := checkName_unknown hs hunknown
    rw [ofValue, hcheck]
    rfl
  have hexecutor' : checkName (.object members) "executor" Executor.ofId? .unknownExecutor =
      .ok () := checkName_recognised hexecutor
  rw [ofValue, hexecutor']
  refine ⟨fun s hs hunknown => ?_, fun htestType => ?_⟩
  · have hcheck : checkName (.object members) "testType" TestType.ofId? .unknownTestType =
        .error (.unknownTestType s) := checkName_unknown hs hunknown
    rw [hcheck]
    rfl
  have htestType' : checkName (.object members) "testType" TestType.ofId? .unknownTestType =
      .ok () := checkName_recognised htestType
  rw [htestType']
  refine ⟨fun s hs hunknown => ?_, fun hmethod => ?_⟩
  · have hcheck : checkName (.object members) "method" Method.ofId? .unknownMethod =
        .error (.unknownMethod s) := checkName_unknown hs hunknown
    rw [hcheck]
    rfl
  have hmethod' : checkName (.object members) "method" Method.ofId? .unknownMethod = .ok () :=
    checkName_recognised hmethod
  rw [hmethod', ← accepts_decoder h, Decoder.Accepts]
  cases decoder (Value.object members).tree with
  | ok c => exact ⟨iff_of_true ⟨c, rfl⟩ ⟨c, rfl⟩, fun hrefused => absurd ⟨c, rfl⟩ hrefused⟩
  | error fault =>
    exact ⟨iff_of_false (by rintro ⟨c, ⟨⟩⟩) (by rintro ⟨c, ⟨⟩⟩), fun _ => ⟨fault, rfl⟩⟩

/-- A variant as an object, a stage as an array and a number that is none. -/
def unusualMembers : Entries Value :=
  [("testType", .object [("smoke", .null)]), ("executor", .text "ramping-vus"),
    ("endpoint", .text "http://x"), ("method", .text "GET"), ("vus", .text "many"),
    ("stages", .array [.array [.text "1m", .number (.natural 5)]])]

theorem ofValue_object_unusual :
    (∃ c, ofValue (.object unusualMembers) = .ok c) ∧
      ofValue (.object [("executor", .text "none"), ("testType", .text "none")]) =
        .error (.unknownExecutor "none") := by
  have hdistinct : (Value.object unusualMembers).Distinct := by
    simp [unusualMembers, Value.Distinct, Json.MembersDistinct, Json.ItemsDistinct, Entries.names]
  have hformat : IsFormat unusualMembers := by
    constructor
    case testType => exact ⟨_, rfl, "smoke", by decide, .inr rfl⟩
    case executor => exact ⟨_, rfl, "ramping-vus", by decide, .inl rfl⟩
    case endpoint => exact ⟨_, rfl, _, rfl⟩
    case method => exact ⟨_, rfl, "GET", by decide, .inl rfl⟩
    case stages =>
      rintro v ⟨⟩
      exact .inr ⟨_, rfl, List.forall_mem_singleton.2 (.array "1m" (by decide))⟩
    all_goals rintro v ⟨⟩
  have hrefused :
      (Value.object [("executor", .text "none"), ("testType", .text "none")]).Distinct := by
    simp [Value.Distinct, Json.MembersDistinct, Entries.names]
  refine ⟨?_, (ofValue_object hrefused).1 "none" rfl (by decide)⟩
  refine ((((ofValue_object hdistinct).2 ?_).2 ?_).2 ?_).1.2 hformat
  · rintro s ⟨⟩
    decide
  · rintro s ⟨⟩
  · rintro s ⟨⟩
    decide

end TestConfig

end LoadTest
