import LoadTest.Proofs.Config.Format
import LoadTest.Proofs.Json.Ensures
import LoadTest.Proofs.Number.Numeral

/-!
# Numeric fields of forms

A configuration is made of its members one by one (`TestConfig.makes_get`), so another value under
one name changes at most the field of that name. A numeric field takes every value: it holds the
number that the value spells, and nothing where it spells none (`TestConfig.ofValue_insert_number`).
-/

namespace LoadTest

open Json (Decoder Member Record Tree Value)

/-! ## What spells a number -/

/-- A whole number, or a text of its digits: there may be a plus sign in front of them, and white
space around. -/
inductive SpellsNatural (n : ℕ) : Value → Prop where
  | number (m : UInt64) (h : m.toNat = n) : SpellsNatural n (.number (.natural m))
  | text (s : String) (digits : List Char) (h : AreDigitsOf digits n)
      (htrim : trimChars s.toList = digits ∨ trimChars s.toList = '+' :: digits) :
      SpellsNatural n (.text s)

/-- Any number, rounded to the nearest double, or a text that is read as a double, white space
around it aside. -/
inductive SpellsReal (x : Binary64) : Value → Prop where
  | number (n : Json.Number) (h : n.toBinary64 = x) : SpellsReal x (.number n)
  | text (s : String) (h : Binary64.ofChars? (trimChars s.toList) = some x) : SpellsReal x (.text s)

section FormNumber

variable {α : Type} {w : Value}

/-- A numeric field holds what numbers and texts spell. -/
theorem formNumber_eq_some_iff {ofNumber : Json.Number → Option α}
    {ofChars : List Char → Option α} {spells : Value → Prop} {o : Option α} {a : α}
    (hw : w.Distinct) (h : formNumber ofNumber ofChars w.tree = .ok o)
    (hnumber : ∀ n, ofNumber n = some a ↔ spells (.number n))
    (htext : ∀ s, ofChars (trimChars s.toList) = some a ↔ spells (.text s))
    (hkind : spells w → (∃ n, w = .number n) ∨ ∃ s, w = .text s) : o = some a ↔ spells w := by
  rw [formNumber, Json.Decoder.value, Json.value?_tree w hw] at h
  obtain rfl := Except.ok.inj h
  cases w with
  | number n => exact hnumber n
  | text s => exact htext s
  | _ => exact iff_of_false (by simp) fun hspells => by simpa using hkind hspells

theorem SpellsNatural.kind {n : ℕ} (h : SpellsNatural n w) :
    (∃ m, w = .number m) ∨ ∃ s, w = .text s := by
  cases h with
  | number m => exact .inl ⟨_, rfl⟩
  | text s => exact .inr ⟨s, rfl⟩

theorem SpellsReal.kind {x : Binary64} (h : SpellsReal x w) :
    (∃ m, w = .number m) ∨ ∃ s, w = .text s := by
  cases h with
  | number m => exact .inl ⟨m, rfl⟩
  | text s => exact .inr ⟨s, rfl⟩

theorem spellsNatural_number {n : ℕ} {m : Json.Number} :
    SpellsNatural n (.number m) ↔ ∃ k : UInt64, m = .natural k ∧ k.toNat = n := by
  constructor
  · rintro ⟨k, h⟩
    exact ⟨k, rfl, h⟩
  · rintro ⟨k, rfl, h⟩
    exact .number k h

/-- A text is read as a number of a type that holds the numbers below the limit. -/
theorem spellsNatural_text {toNat : α → ℕ} {ofNat : ℕ → α} {limit : ℕ} {a : α}
    (hlt : toNat a < limit) (hofNat : ofNat (toNat a) = a)
    (htoNat : ∀ n < limit, toNat (ofNat n) = n) (s : String) :
    (naturalBelow? limit (trimChars s.toList)).map ofNat = some a ↔
      SpellsNatural (toNat a) (.text s) := by
  rw [Option.map_eq_some_iff]
  constructor
  · rintro ⟨n, hn, rfl⟩
    obtain ⟨hlimit, digits, h, htrim⟩ := naturalBelow?_eq_some.1 hn
    rw [htoNat n hlimit]
    exact .text s digits h htrim
  · rintro ⟨⟩
    exact ⟨toNat a, naturalBelow?_eq_some.2 ⟨hlt, _, ‹_›, ‹_›⟩, hofNat⟩

theorem formUInt32_eq_some_iff {o : Option UInt32} (hw : w.Distinct)
    (h : formUInt32 w.tree = .ok o) (n : UInt32) : o = some n ↔ SpellsNatural n.toNat w := by
  refine formNumber_eq_some_iff hw h (fun m => ?_)
    (spellsNatural_text n.toNat_lt UInt32.ofNat_toNat fun _ => UInt32.toNat_ofNat_of_lt)
    SpellsNatural.kind
  rw [spellsNatural_number]
  cases m with
  | natural k =>
    have hn : n.toNat < 2 ^ 32 := n.toNat_lt
    simp only [Json.Number.natural.injEq, exists_eq_left', Option.ite_none_right_eq_some,
      Option.some.injEq, ← UInt32.toNat_inj, UInt64.toNat_toUInt32]
    omega
  | negative below => simp
  | real x => simp

theorem formUInt64_eq_some_iff {o : Option UInt64} (hw : w.Distinct)
    (h : formUInt64 w.tree = .ok o) (n : UInt64) : o = some n ↔ SpellsNatural n.toNat w := by
  refine formNumber_eq_some_iff hw h (fun m => ?_)
    (spellsNatural_text n.toNat_lt UInt64.ofNat_toNat fun _ => UInt64.toNat_ofNat_of_lt)
    SpellsNatural.kind
  rw [spellsNatural_number]
  cases m with
  | natural k => simp [UInt64.toNat_inj]
  | negative below => simp
  | real x => simp

theorem formBinary64_eq_some_iff {o : Option Binary64} (hw : w.Distinct)
    (h : formBinary64 w.tree = .ok o) (x : Binary64) : o = some x ↔ SpellsReal x w := by
  refine formNumber_eq_some_iff hw h (fun n => ?_) (fun s => ?_) SpellsReal.kind
  · rw [Option.some.injEq]
    exact ⟨.number n, by rintro ⟨⟩; assumption⟩
  · exact ⟨.text s, by rintro ⟨⟩; assumption⟩

end FormNumber

namespace TestConfig

/-! ## Fields -/

/-- The fields of a configuration. -/
inductive Field where
  | testType
  | executor
  | endpoint
  | method
  | headers
  | body
  | vus
  | duration
  | stages
  | iterations
  | rate
  | timeUnit
  | preAllocatedVus
  | maxVus
  | checks
  | thinkTime
deriving DecidableEq

/-- What is kept in the field. -/
def Field.Holds : Field → Type
  | .testType => TestType
  | .executor => Executor
  | .endpoint => String
  | .method => Method
  | .headers => Headers
  | .body | .duration | .timeUnit => Option String
  | .vus | .preAllocatedVus | .maxVus => Option UInt32
  | .stages => List Stage
  | .iterations | .rate => Option UInt64
  | .checks => List String
  | .thinkTime => Option Binary64

/-- The member that the field is read from. -/
def Field.member : (f : Field) → Member f.Holds
  | .testType => .required "testType" (.variant TestType.variants)
  | .executor => .required "executor" (.variant Executor.variants)
  | .endpoint => .required "endpoint" .text
  | .method => .required "method" (.variant Method.variants)
  | .headers => .withDefault "headers" Headers.decoder .empty
  | .body => .withDefault "body" (.option .text) none
  | .vus => .withDefault "vus" formUInt32 none
  | .duration => .withDefault "duration" (.option .text) none
  | .stages => .withDefault "stages" (.listOrNull Stage.decoder) []
  | .iterations => .withDefault "iterations" formUInt64 none
  | .rate => .withDefault "rate" formUInt64 none
  | .timeUnit => .withDefault "timeUnit" (.option .text) none
  | .preAllocatedVus => .withDefault "preAllocatedVUs" formUInt32 none
  | .maxVus => .withDefault "maxVUs" formUInt32 none
  | .checks => .withDefault "checks" (.listOrNull .text) []
  | .thinkTime => .withDefault "thinkTime" formBinary64 none

/-- What the configuration keeps in the field. -/
def get (c : TestConfig) : (f : Field) → f.Holds
  | .testType => c.testType
  | .executor => c.executor
  | .endpoint => c.endpoint
  | .method => c.method
  | .headers => c.headers
  | .body => c.body
  | .vus => c.vus
  | .duration => c.duration
  | .stages => c.stages
  | .iterations => c.iterations
  | .rate => c.rate
  | .timeUnit => c.timeUnit
  | .preAllocatedVus => c.preAllocatedVus
  | .maxVus => c.maxVus
  | .checks => c.checks
  | .thinkTime => c.thinkTime

/-- Every field is made of what is found under its name, and of nothing else. -/
theorem makes_get {find : String → Option Tree} {c : TestConfig}
    (h : record.build .object find = .ok c) (f : Field) :
    f.member.Makes (find f.member.name) (c.get f) := by
  have hrecord : record.Gives find fun c => ∀ f : Field,
      f.member.Makes (find f.member.name) (c.get f) := by
    unfold record
    iterate 16 refine Record.Gives.andMember ?_
    refine .pure ?_
    intro testType htestType executor hexecutor endpoint hendpoint method hmethod headers hheaders
      body hbody vus hvus duration hduration stages hstages iterations hiterations rate hrate
      timeUnit htimeUnit ahead hahead most hmost checks hchecks thinkTime hthinkTime f
    cases f <;> assumption
  exact hrecord c h f

/-! ## Numeric fields -/

/-- The fields for numbers. -/
inductive NumericField where
  | vus
  | preAllocatedVus
  | maxVus
  | iterations
  | rate
  | thinkTime

namespace NumericField

/-- The field among all. -/
def field : NumericField → Field
  | .vus => .vus
  | .preAllocatedVus => .preAllocatedVus
  | .maxVus => .maxVus
  | .iterations => .iterations
  | .rate => .rate
  | .thinkTime => .thinkTime

/-- The name of its member. -/
def key : NumericField → String
  | .vus => "vus"
  | .preAllocatedVus => "preAllocatedVUs"
  | .maxVus => "maxVUs"
  | .iterations => "iterations"
  | .rate => "rate"
  | .thinkTime => "thinkTime"

/-- The numbers that it may hold. -/
def Number : NumericField → Type
  | .vus | .preAllocatedVus | .maxVus => UInt32
  | .iterations | .rate => UInt64
  | .thinkTime => Binary64

/-- The number in the field, if there is one. -/
def get (c : TestConfig) : (k : NumericField) → Option k.Number
  | .vus => c.vus
  | .preAllocatedVus => c.preAllocatedVus
  | .maxVus => c.maxVus
  | .iterations => c.iterations
  | .rate => c.rate
  | .thinkTime => c.thinkTime

/-- The value spells the number. -/
def Spells (w : Value) : (k : NumericField) → k.Number → Prop
  | .vus, n | .preAllocatedVus, n | .maxVus, n => SpellsNatural (UInt32.toNat n) w
  | .iterations, n | .rate, n => SpellsNatural (UInt64.toNat n) w
  | .thinkTime, x => SpellsReal x w

theorem name_ne_key {k : NumericField} {f : Field} (h : f ≠ k.field) : f.member.name ≠ k.key := by
  revert h
  cases k <;> cases f <;> decide

/-- The field holds the number that the value under its name spells. -/
theorem get_eq_some_iff {k : NumericField} {w : Value} {c : TestConfig} (hw : w.Distinct)
    (h : k.field.member.Makes (some w.tree) (c.get k.field)) (n : k.Number) :
    k.get c = some n ↔ k.Spells w n := by
  cases k with
  | vus | preAllocatedVus | maxVus => exact formUInt32_eq_some_iff hw h n
  | iterations | rate => exact formUInt64_eq_some_iff hw h n
  | thinkTime => exact formBinary64_eq_some_iff hw h n

end NumericField

/-! ## Another value -/

section Insert

variable {members : Entries Value} {w : Value} {c : TestConfig}

theorem IsFormat.insert (h : IsFormat members) (k : NumericField) :
    IsFormat (members.insert k.key w) := by
  have hget : ∀ name, k.key ≠ name →
      Entries.get? name (members.insert k.key w) = Entries.get? name members := fun name hname => by
    rw [Entries.get?_insert, if_neg hname]
  constructor <;> rw [hget _ (by cases k <;> decide)]
  exacts [h.testType, h.executor, h.endpoint, h.method, h.headers, h.body, h.duration, h.stages,
    h.timeUnit, h.checks]

theorem checkName_insert {α : Type} {k : NumericField} {member : String} (hmember : k.key ≠ member)
    (ofId? : String → Option α) (fault : String → Error) :
    checkName (.object (members.insert k.key w)) member ofId? fault =
      checkName (.object members) member ofId? fault := by
  unfold checkName Value.get?
  simp only [Entries.get?_insert, if_neg hmember]

theorem ofValue_eq_ok {v : Value} : ofValue v = .ok c ↔
    checkName v "executor" Executor.ofId? .unknownExecutor = .ok () ∧
      checkName v "testType" TestType.ofId? .unknownTestType = .ok () ∧
      checkName v "method" Method.ofId? .unknownMethod = .ok () ∧ decoder v.tree = .ok c := by
  constructor
  · intro h
    obtain ⟨⟨⟩, hexecutor, h⟩ := Json.ok_of_bind h
    obtain ⟨⟨⟩, htestType, h⟩ := Json.ok_of_bind h
    obtain ⟨⟨⟩, hmethod, h⟩ := Json.ok_of_bind h
    refine ⟨hexecutor, htestType, hmethod, ?_⟩
    cases hread : decoder v.tree with
    | ok c' =>
      rw [hread] at h
      exact congrArg Except.ok (Except.ok.inj h)
    | error fault =>
      rw [hread] at h
      cases h
  · rintro ⟨hexecutor, htestType, hmethod, hread⟩
    rw [ofValue, hexecutor, htestType, hmethod, hread]
    rfl

/-- Whatever is put under the name of a numeric field, the object stays a configuration and no other
field changes. The field then holds the number that the value spells, or nothing. -/
theorem ofValue_insert_number (h : (Value.object members).Distinct)
    (hc : ofValue (.object members) = .ok c) (k : NumericField) (hw : w.Distinct) :
    ∃ c', ofValue (.object (members.insert k.key w)) = .ok c' ∧
      (∀ f, f ≠ k.field → c'.get f = c.get f) ∧ ∀ n, k.get c' = some n ↔ k.Spells w n := by
  obtain ⟨hexecutor, htestType, hmethod, hread⟩ := ofValue_eq_ok.1 hc
  have h' := Json.distinct_insert k.key h hw
  obtain ⟨c', hread'⟩ := (accepts_decoder h').2 (((accepts_decoder h).1 ⟨c, hread⟩).insert k)
  have hmakes := makes_get (Record.build_of_ofTree hread)
  have hmakes' := makes_get (Record.build_of_ofTree hread')
  refine ⟨c', ofValue_eq_ok.2 ⟨?_, ?_, ?_, hread'⟩, fun f hf => ?_, ?_⟩
  · rwa [checkName_insert (by cases k <;> decide)]
  · rwa [checkName_insert (by cases k <;> decide)]
  · rwa [checkName_insert (by cases k <;> decide)]
  · have hfield := hmakes' f
    rw [Entries.get?_insert, if_neg (NumericField.name_ne_key hf).symm] at hfield
    exact hfield.unique (hmakes f)
  · have hname : k.key = k.field.member.name := by cases k <;> rfl
    have hfield := hmakes' k.field
    rw [Entries.get?_insert, if_pos hname] at hfield
    exact NumericField.get_eq_some_iff hw hfield

end Insert

/-- A configuration whose number of users can be spelled in other ways. -/
def threeUsers : Entries Value :=
  [("testType", .text "smoke"), ("executor", .text "constant-vus"), ("endpoint", .text "http://x"),
    ("method", .text "GET"), ("vus", .number (.natural 3))]

/-- A sign and a zero in front of the number, and white space of two kinds around it. -/
theorem ofValue_insert_number_text :
    (Value.object threeUsers).Distinct ∧
      ofValue (.object threeUsers) =
        .ok { plain .smoke .constantVus .get "http://x" with vus := some 3 } ∧
      ∃ c', ofValue (.object (threeUsers.insert "vus" (.text "\u00a0+07\t"))) = .ok c' ∧
        c'.vus = some 7 ∧ c'.endpoint = "http://x" := by
  have hmembers : (Value.object threeUsers).Distinct := by
    simp [threeUsers, Value.Distinct, Json.MembersDistinct, Entries.names]
  have hread : ofValue (.object threeUsers) =
      .ok { plain .smoke .constantVus .get "http://x" with vus := some 3 } := rfl
  have htext : (Value.text "\u00a0+07\t").Distinct := by
    simp [Value.Distinct]
  have hspells : SpellsNatural 7 (.text "\u00a0+07\t") :=
    .text _ ['0', '7'] ⟨by decide, by decide, by decide⟩ (.inr (by decide))
  obtain ⟨c', hc', hother, hvus⟩ := ofValue_insert_number hmembers hread .vus htext
  exact ⟨hmembers, hread, c', hc', (hvus (7 : UInt32)).2 hspells, hother .endpoint (by decide)⟩

end TestConfig

end LoadTest
