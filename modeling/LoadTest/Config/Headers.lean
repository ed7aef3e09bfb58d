import LoadTest.Json.Document

/-!
# Request headers

Headers stand in the order in which they were entered, each name once. A name that is entered
again takes the new value where it stands.
-/

namespace LoadTest

namespace Entries

variable {β : Type}

theorem mem_names_insert {name n : String} {value : β} {entries : Entries β} :
    n ∈ (entries.insert name value).names ↔ n = name ∨ n ∈ entries.names := by
  induction entries with
  | nil => simp [insert, names]
  | cons entry rest ih =>
    obtain ⟨m, v⟩ := entry
    by_cases h : m = name
    · simp [insert, names, h]
    · simp only [insert, h, if_false, names, List.map_cons, List.mem_cons]
      have := ih
      simp only [names] at this
      rw [this]
      constructor
      · rintro (h | h | h) <;> simp [h]
      · rintro (h | h | h) <;> simp [h]

theorem nodup_names_insert {name : String} {value : β} {entries : Entries β}
    (h : entries.names.Nodup) : (entries.insert name value).names.Nodup := by
  induction entries with
  | nil => simp [insert, names]
  | cons entry rest ih =>
    obtain ⟨m, v⟩ := entry
    simp only [names, List.map_cons, List.nodup_cons] at h
    by_cases hm : m = name
    · simpa [insert, names, hm] using h
    · simp only [insert, hm, if_false, names, List.map_cons, List.nodup_cons]
      refine ⟨fun hmem => ?_, ih h.2⟩
      rcases mem_names_insert.1 hmem with rfl | hmem
      · exact hm rfl
      · exact h.1 hmem

theorem nodup_names_override {entries later : Entries β} (h : entries.names.Nodup) :
    (entries.override later).names.Nodup := by
  induction later generalizing entries with
  | nil => exact h
  | cons entry rest ih => exact ih (nodup_names_insert h)

end Entries

/-- Named texts, each name once. -/
structure Headers where
  entries : Entries String
  distinct : entries.names.Nodup
deriving DecidableEq

namespace Headers

/-- No headers. -/
def empty : Headers :=
  ⟨[], by simp [Entries.names]⟩

/-- Enters a header. -/
def insert (name value : String) (headers : Headers) : Headers :=
  ⟨headers.entries.insert name value, Entries.nodup_names_insert headers.distinct⟩

/-- Enters the pairs one after another. -/
def ofList (pairs : List (String × String)) : Headers :=
  ⟨Entries.ofList pairs, Entries.nodup_names_override (by simp [Entries.names])⟩

/-- The value of the header of that name. -/
def get? (name : String) (headers : Headers) : Option String :=
  headers.entries.get? name

/-- The names in the order in which they were entered. -/
def names (headers : Headers) : List String :=
  headers.entries.names

def size (headers : Headers) : Nat :=
  headers.entries.length

def isEmpty (headers : Headers) : Bool :=
  headers.entries.isEmpty

/-- An object of texts, in the order of the headers. -/
def toJson (headers : Headers) : Json.Value :=
  .object (headers.entries.map fun entry => (entry.1, .text entry.2))

/-- The text of a header's value: a text as it is, nothing for null, and anything else as it is
written in a document. -/
def valueText? : Json.Value → Option String
  | .null => none
  | .text s => some s
  | v => some v.compact

/-- The headers that the members of an object stand for. A member that is null stands for none. -/
def ofMembers (members : Entries Json.Value) : Headers :=
  ofList (members.filterMap fun member => (valueText? member.2).map (member.1, ·))

/-- Null is the empty set. -/
def decoder : Json.Decoder Headers := fun t =>
  (Json.Decoder.option .members t).map fun members => ofMembers (members.getD [])

/-- Loads headers from a text. -/
def ofText (text : String) : Except Json.Fault Headers :=
  decoder.ofChars text.toList

end Headers

end LoadTest
