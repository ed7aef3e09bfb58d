import LoadTest.Config.Headers
import LoadTest.Proofs.Entries
import Mathlib.Data.Finset.Card
import Mathlib.Data.List.Induction

/-!
# Headers after any steps

Headers change when a value is entered under a name, and when pairs replace all of them. What counts
of such steps is their history: the pairs that were entered since the last replacement, in the order
in which they came.

`Entries.Tells` is what every insertion preserves (`Entries.Tells.insert`): the entries have the
names of the history in the order in which each came first, and find the value under a name that
came last. So the headers tell the history of any steps (`Headers.run_tells_history`).
-/

namespace LoadTest

namespace Entries

variable {β : Type} {name : String} {value : β} {entries history later : Entries β}

/-- The value was entered under that name, and no other was afterwards. -/
def EnteredLast (name : String) (value : β) (history : Entries β) : Prop :=
  ∃ before after, history = before ++ (name, value) :: after ∧ name ∉ names after

theorem enteredLast_concat {n : String} {v : β} :
    EnteredLast n v (history ++ [(name, value)]) ↔
      if name = n then v = value else EnteredLast n v history := by
  constructor
  · rintro ⟨before, after, h, hafter⟩
    rcases List.eq_nil_or_concat after with rfl | ⟨after, last, rfl⟩
    · obtain ⟨rfl, hlast⟩ := List.append_inj' h rfl
      obtain ⟨rfl, rfl⟩ := Prod.mk.inj (List.singleton_inj.1 hlast)
      rw [if_pos rfl]
    · rw [List.concat_eq_append] at h hafter
      rw [← List.cons_append, ← List.append_assoc] at h
      obtain ⟨rfl, hlast⟩ := List.append_inj' h rfl
      obtain rfl := List.singleton_inj.1 hlast
      rw [names, List.map_append, List.mem_append, not_or] at hafter
      rw [if_neg (by simpa [eq_comm] using hafter.2)]
      exact ⟨before, after, rfl, hafter.1⟩
  · split_ifs with hn
    · rintro rfl
      exact ⟨history, [], by rw [hn], by simp [names]⟩
    · rintro ⟨before, after, rfl, hafter⟩
      refine ⟨before, after ++ [(name, value)], by simp, ?_⟩
      rw [names, List.map_append, List.mem_append, not_or]
      exact ⟨hafter, by simpa using Ne.symm hn⟩

theorem enteredLast_map {γ : Type} (f : β → γ) {name : String} {value : γ} :
    EnteredLast name value (history.map fun entry => (entry.1, f entry.2)) ↔
      ∃ v, EnteredLast name v history ∧ f v = value := by
  have hnames : ∀ entries : Entries β,
      names (entries.map fun entry => (entry.1, f entry.2)) = entries.names := fun entries => by
    simp [names]
  constructor
  · rintro ⟨before, after, h, hafter⟩
    obtain ⟨first, rest, rfl, rfl, hrest⟩ := List.map_eq_append_iff.1 h
    obtain ⟨⟨n, v⟩, last, rfl, hentry, rfl⟩ := List.map_eq_cons_iff.1 hrest
    obtain ⟨rfl, rfl⟩ := Prod.mk.inj hentry
    exact ⟨v, ⟨first, last, rfl, by rwa [hnames] at hafter⟩, rfl⟩
  · rintro ⟨v, ⟨before, after, rfl, hafter⟩, rfl⟩
    exact ⟨_, _, List.map_append, by rwa [hnames]⟩

/-- The entries are what is left of everything that was entered. -/
structure Tells (entries history : Entries β) : Prop where
  mem_names : ∀ name, name ∈ entries.names ↔ name ∈ history.names
  ordered : entries.names.Pairwise fun a b => history.names.idxOf a < history.names.idxOf b
  get? : ∀ name value, entries.get? name = some value ↔ EnteredLast name value history

theorem tells_nil : Tells ([] : Entries β) [] where
  mem_names _ := Iff.rfl
  ordered := List.Pairwise.nil
  get? name value := by simp [EnteredLast]

theorem names_concat : names (history ++ [(name, value)]) = history.names ++ [name] := by
  simp [names]

theorem Tells.ordered_insert (h : entries.Tells history) :
    (entries.insert name value).names.Pairwise fun a b =>
      (history.names ++ [name]).idxOf a < (history.names ++ [name]).idxOf b := by
  have hidx : ∀ a ∈ entries.names, (history.names ++ [name]).idxOf a = history.names.idxOf a :=
    fun a ha => List.idxOf_append_of_mem ((h.mem_names a).1 ha)
  have hold : entries.names.Pairwise fun a b =>
      (history.names ++ [name]).idxOf a < (history.names ++ [name]).idxOf b := by
    refine h.ordered.imp_of_mem fun {a b} ha hb hlt => ?_
    rwa [hidx a ha, hidx b hb]
  by_cases hmem : name ∈ entries.names
  · rwa [names_insert_of_mem hmem]
  · rw [insert_of_notMem hmem, names_concat, List.pairwise_append]
    refine ⟨hold, List.pairwise_singleton _ _, fun a ha b hb => ?_⟩
    -- a new name comes first behind the whole history
    have hnew : name ∉ history.names := fun hname => hmem ((h.mem_names name).2 hname)
    rw [List.mem_singleton.1 hb, hidx a ha, List.idxOf_append_of_notMem hnew]
    exact Nat.lt_add_right _ (List.idxOf_lt_length_of_mem ((h.mem_names a).1 ha))

/-- What one insertion preserves. -/
theorem Tells.insert (h : entries.Tells history) :
    (entries.insert name value).Tells (history ++ [(name, value)]) where
  mem_names n := by
    rw [mem_names_insert, names_concat, h.mem_names n, List.mem_append, List.mem_singleton, or_comm]
  ordered := by
    rw [names_concat]
    exact h.ordered_insert
  get? n v := by
    rw [get?_insert, enteredLast_concat]
    split_ifs with hn
    · rw [Option.some.injEq, eq_comm]
    · exact h.get? n v

theorem Tells.override (h : entries.Tells history) :
    (entries.override later).Tells (history ++ later) := by
  induction later generalizing entries history with
  | nil => rwa [List.append_nil]
  | cons entry later ih =>
    rw [List.append_cons]
    exact ih h.insert

theorem tells_ofList (history : Entries β) : (ofList history).Tells history :=
  tells_nil.override

theorem Tells.nodup_names (h : entries.Tells history) : entries.names.Nodup :=
  h.ordered.imp fun hlt heq => absurd hlt (by rw [heq]; exact lt_irrefl _)

theorem Tells.get?_eq_none (h : entries.Tells history) :
    entries.get? name = none ↔ name ∉ history.names := by
  rw [← h.mem_names, ← exists_get?, Option.eq_none_iff_forall_ne_some, not_exists]

theorem Tells.length_eq_card (h : entries.Tells history) :
    entries.length = history.names.toFinset.card := by
  have hsame : history.names.toFinset = entries.names.toFinset := by
    ext name
    rw [List.mem_toFinset, List.mem_toFinset, h.mem_names]
  rw [hsame, List.toFinset_card_of_nodup h.nodup_names, names, List.length_map]

theorem Tells.eq_nil_iff (h : entries.Tells history) : entries = [] ↔ history = [] := by
  have hnames : ∀ es : Entries β, es = [] ↔ ∀ name, name ∉ es.names := by
    intro es
    rw [← List.eq_nil_iff_forall_not_mem, names, List.map_eq_nil_iff]
  rw [hnames, hnames]
  exact forall_congr' fun name => not_congr (h.mem_names name)

end Entries

namespace Headers

/-- A change of headers. -/
inductive Step where
  | insert (name value : String)
  | collect (pairs : List (String × String))

/-- The headers after a change. -/
def Step.apply (headers : Headers) : Step → Headers
  | .insert name value => headers.insert name value
  | .collect pairs => ofList pairs

/-- The headers after changes from the start. -/
def run (steps : List Step) : Headers :=
  steps.foldl Step.apply .empty

/-- What has been entered after a step, if `history` was entered before it. -/
def Step.enter (history : Entries String) : Step → Entries String
  | .insert name value => history ++ [(name, value)]
  | .collect pairs => pairs

/-- What has been entered since the last replacement, in the order in which it came. -/
def history (steps : List Step) : Entries String :=
  steps.foldl Step.enter []

theorem tells_apply {headers : Headers} {entered : Entries String}
    (h : headers.entries.Tells entered) (step : Step) :
    (step.apply headers).entries.Tells (step.enter entered) := by
  cases step with
  | insert name value => exact h.insert
  | collect pairs => exact Entries.tells_ofList pairs

theorem tells_run (steps : List Step) : (run steps).entries.Tells (history steps) := by
  induction steps using List.reverseRecOn with
  | nil => exact Entries.tells_nil
  | append_singleton steps step ih =>
    rw [run, history, List.foldl_append, List.foldl_append]
    exact tells_apply ih step

/-- After any steps every name stands once, in the order in which it was first entered, with the
value that was entered last. -/
theorem run_tells_history (steps : List Step) :
    (run steps).names.Nodup ∧
      (∀ name, name ∈ (run steps).names ↔ name ∈ (history steps).names) ∧
      (run steps).names.Pairwise (fun a b =>
        (history steps).names.idxOf a < (history steps).names.idxOf b) ∧
      (∀ name value, (run steps).get? name = some value ↔
        Entries.EnteredLast name value (history steps)) ∧
      (∀ name, (run steps).get? name = none ↔ name ∉ (history steps).names) ∧
      (run steps).size = (history steps).names.toFinset.card ∧
      ((run steps).isEmpty = true ↔ history steps = []) := by
  have h := tells_run steps
  refine ⟨h.nodup_names, h.mem_names, h.ordered, h.get?, fun name => h.get?_eq_none,
    h.length_eq_card, ?_⟩
  rw [isEmpty, List.isEmpty_iff]
  exact h.eq_nil_iff

/-- A value that is entered again takes its old place, and a replacement forgets what was before. -/
example : (run [.insert "gone" "0", .collect [("b", "1"), ("a", "2")], .insert "c" "3",
    .insert "b" "4"]).entries = [("b", "4"), ("a", "2"), ("c", "3")] := by decide

end Headers

end LoadTest
