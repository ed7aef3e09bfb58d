import LoadTest.Proofs.Config.Headers
import LoadTest.Proofs.Config.RoundTrip

/-!
# Headers from documents

Any text that holds an object can be loaded as headers (`Headers.ofText_documents`). Of the members
of a name the last one counts, in the place of the first; if it is null, the name is dropped. A text
is taken as it is, and any other value is written compactly, so that it can be read again.

The object is the one that the text spells, with every member that stands there. Reading it joins
members of the same name, and its values are then turned into texts under their names, which keeps
them in order (`Headers.loads_ofMembers`).
-/

namespace LoadTest

open Entries (EnteredLast)
open Json (IsDocument Layout Value)

/-- An object keeps the last member of every name. -/
theorem Json.get?_ofList_membersJoined {members : Entries Value} {name : String} {w : Value} :
    Entries.get? name (Entries.ofList (membersJoined members)) = some w ↔
      ∃ v, EnteredLast name v members ∧ v.joined = w := by
  rw [(Entries.tells_ofList _).get?, membersJoined_eq_map, Entries.enteredLast_map]

namespace Headers

/-- What is left of the members of a document, each name once. -/
structure Loads (headers : Headers) (members : Entries Value) : Prop where
  mem_names : ∀ name, name ∈ headers.names ↔ ∃ v, EnteredLast name v members ∧ v ≠ .null
  ordered : headers.names.Pairwise fun a b => members.names.idxOf a < members.names.idxOf b
  text : ∀ name s, EnteredLast name (.text s) members → headers.get? name = some s
  other : ∀ name v, EnteredLast name v members → v ≠ .null → (∀ s, v ≠ .text s) →
    headers.get? name = some v.joined.compact ∧ Value.ofText? v.joined.compact = some v.joined

/-! ## Values of headers -/

theorem valueText?_eq_none_iff {v : Value} : valueText? v.joined = none ↔ v = .null := by
  cases v <;> simp [Value.joined, valueText?]

theorem valueText?_other {v : Value} (hnull : v ≠ .null) (htext : ∀ s, v ≠ .text s) :
    valueText? v.joined = some v.joined.compact := by
  cases v with
  | null => exact absurd rfl hnull
  | text s => exact absurd rfl (htext s)
  | _ => simp [Value.joined, valueText?]

/-! ## Members of headers -/

variable {members : Entries Value}

theorem entries_ofMembers (h : members.names.Nodup) : (ofMembers members).entries =
    members.filterMap fun member => (valueText? member.2).map (member.1, ·) :=
  Entries.ofList_eq_self (h.sublist (Entries.names_filterMap_sublist valueText? members))

theorem get?_ofMembers (h : members.names.Nodup) (name : String) :
    (ofMembers members).get? name = (members.get? name).bind valueText? := by
  rw [get?, entries_ofMembers h, Entries.get?_filterMap valueText? h]

theorem get?_loaded (members : Entries Value) (name : String) (text : String) :
    (ofMembers (Entries.ofList (Json.membersJoined members))).get? name = some text ↔
      ∃ v, EnteredLast name v members ∧ valueText? v.joined = some text := by
  rw [get?_ofMembers (Entries.tells_ofList _).nodup_names, Option.bind_eq_some_iff]
  simp only [Json.get?_ofList_membersJoined]
  constructor
  · rintro ⟨_, ⟨v, hv, rfl⟩, htext⟩
    exact ⟨v, hv, htext⟩
  · rintro ⟨v, hv, htext⟩
    exact ⟨_, ⟨v, hv, rfl⟩, htext⟩

theorem loads_ofMembers (hd : Json.membersDepth members ≤ 126) :
    (ofMembers (Entries.ofList (Json.membersJoined members))).Loads members where
  mem_names name := by
    refine Entries.exists_get?.symm.trans ⟨?_, ?_⟩
    · rintro ⟨text, htext⟩
      obtain ⟨v, hv, htext⟩ := (get?_loaded members name text).1 htext
      refine ⟨v, hv, fun hnull => ?_⟩
      rw [valueText?_eq_none_iff.2 hnull] at htext
      cases htext
    · rintro ⟨v, hv, hnull⟩
      obtain ⟨text, htext⟩ := Option.ne_none_iff_exists'.1 (valueText?_eq_none_iff.not.2 hnull)
      exact ⟨text, (get?_loaded members name text).2 ⟨v, hv, htext⟩⟩
  ordered := by
    have htells := Entries.tells_ofList (Json.membersJoined members)
    have hnames : Entries.names (Json.membersJoined members) = members.names := by
      simp [Entries.names, Json.membersJoined_eq_map]
    rw [names, entries_ofMembers htells.nodup_names]
    have hordered := htells.ordered.sublist (Entries.names_filterMap_sublist valueText? _)
    rwa [hnames] at hordered
  text name s h := (get?_loaded members name s).2 ⟨_, h, by rw [Value.joined] <;> simp [valueText?]⟩
  other name v h hnull htext := by
    refine ⟨(get?_loaded members name _).2 ⟨v, h, valueText?_other hnull htext⟩, ?_⟩
    obtain ⟨before, after, rfl, -⟩ := h
    have hmem : (name, v.joined) ∈ Json.membersJoined (before ++ (name, v) :: after) := by
      simp [Json.membersJoined_eq_map]
    -- inside the object it was less deep than the object may be
    have hfits := Json.fits_membersJoined hd _ hmem
    exact Json.ofText?_compact hfits.distinct (hfits.depth.trans (by decide))

/-! ## Texts of headers -/

theorem ofText_of_isDocument {text : String} {v : Value} (h : IsDocument text.toList v) :
    ofText text = decoder v.tree := by
  rw [ofText, Json.ofChars_of_isDocument decoder h]

theorem decoder_object (members : Entries Value) :
    decoder (Value.object members).tree =
      .ok (ofMembers (Entries.ofList (Json.membersJoined members))) := by
  rw [Value.tree, decoder, Json.Decoder.option, Json.Decoder.members_memberTrees]
  · rfl
  · rintro ⟨⟩

theorem ofText_chars {layout : Layout} (hl : layout.IsBlank) (headers : Headers) :
    ofText (String.ofList (headers.toJson.chars layout 0)) = .ok headers := by
  rw [ofText, String.toList_ofList,
    (recovers_toJson (k := 0) headers).ofChars_chars (by decide) hl]

/-- Every text that holds an object is loaded as its members say, and null as no headers; and
headers are loaded from their own text in either layout. -/
theorem ofText_documents :
    (∀ text, (∃ entries, Value.ofText? text = some (.object entries)) ↔
      ∃ members, IsDocument text.toList (.object members)) ∧
    (∀ text members, IsDocument text.toList (.object members) →
      ∃ headers, ofText text = .ok headers ∧ headers.Loads members) ∧
    (∀ text, IsDocument text.toList .null → ofText text = .ok .empty) ∧
    ∀ headers : Headers, ofText headers.toJson.compact = .ok headers ∧
      ofText headers.toJson.spread = .ok headers := by
  refine ⟨fun text => ⟨?_, ?_⟩, ?_, ?_, fun headers => ⟨?_, ?_⟩⟩
  · rintro ⟨entries, h⟩
    obtain ⟨v, hv, hjoined⟩ := Json.ofText?_eq_some_iff_isDocument.1 h
    obtain ⟨members, rfl⟩ := Json.exists_of_joined_eq_object hjoined
    exact ⟨members, hv⟩
  · rintro ⟨members, h⟩
    exact ⟨_, Json.ofText?_eq_some_iff_isDocument.2 ⟨_, h, by rw [Value.joined]⟩⟩
  · intro text members h
    have hdepth := h.depth
    rw [Value.depth] at hdepth
    refine ⟨_, ?_, loads_ofMembers (Nat.le_of_succ_le_succ hdepth)⟩
    rw [ofText_of_isDocument h, decoder_object]
  · intro text h
    rw [ofText_of_isDocument h, Value.tree]
    rfl
  · exact ofText_chars Json.isBlank_compact headers
  · exact ofText_chars Json.isBlank_spread headers

/-- Two names stand twice, and one of them ends up as null. -/
def repeated : Entries Value :=
  [("X-Trace", .text "1"), ("X-Gone", .bool true), ("X-Retry", .array [.ofUInt64 3, .null]),
    ("X-Gone", .null), ("X-Trace", .text "2")]

theorem ofText_documents_repeated :
    IsDocument (Value.object repeated).compact.toList (.object repeated) ∧
      (∃ headers, ofText (Value.object repeated).compact = .ok headers ∧ headers.Loads repeated) ∧
      IsDocument Value.null.compact.toList .null ∧ ofText Value.null.compact = .ok .empty := by
  have hobject : IsDocument (Value.object repeated).compact.toList (.object repeated) := by
    rw [Value.compact, String.toList_ofList]
    exact Json.isDocument_chars Json.isBlank_compact (by decide) 0
  have hnull : IsDocument Value.null.compact.toList .null := by
    rw [Value.compact, String.toList_ofList]
    exact Json.isDocument_chars Json.isBlank_compact (by decide) 0
  exact ⟨hobject, ofText_documents.2.1 _ _ hobject, hnull, ofText_documents.2.2.1 _ hnull⟩

/-- A name keeps its first place. -/
example : (ofMembers (Entries.ofList (Json.membersJoined repeated))).entries =
    [("X-Trace", "2"), ("X-Retry", "[3,null]")] := by decide

end Headers

end LoadTest
