import LoadTest.Proofs.Json.Reader

/-!
# The reader step by step

As long as a text is JSON, the reader goes from point to point: from in front of a value or a member
to what stands behind it. A `Step` is what it can do there, and each step makes the text shorter. A
`Run` takes it to the end of the document.

The reader makes the steps of a run (`Run.read_eq`), and where it comes to a value it made them
(`run_read`). So a text is read as a value if and only if a run leads to it (`ofText?_eq_some_iff`),
and what holds of documents that are read is shown for one step and then for runs.
-/

namespace LoadTest.Json

/-- Where the reader is, with the open containers and the rest of the text. -/
inductive Point where
  | value (stack : List Frame) (cs : List Char)
  | member (stack : List Frame) (members : List (Option String × Tree)) (cs : List Char)
  | after (stack : List Frame) (t : Tree) (cs : List Char)

namespace Point

/-- What the reader finds from here on. -/
def read : Point → Tree × List Char
  | .value stack cs => readValue stack cs
  | .member stack members cs => readMember stack members cs
  | .after stack t cs => readAfter stack t cs

/-- The rest of the text. -/
def chars : Point → List Char
  | .value _ cs => cs
  | .member _ _ cs => cs
  | .after _ _ cs => cs

end Point

/-- The words that are values. -/
def words : List (List Char × Tree) :=
  [("null".toList, .null), ("true".toList, .bool true), ("false".toList, .bool false)]

theorem words_ne_nil {word : List Char} {t : Tree} (h : (word, t) ∈ words) : word ≠ [] := by
  simp only [words, List.mem_cons, Prod.mk.injEq, List.not_mem_nil, or_false] at h
  rcases h with ⟨rfl, -⟩ | ⟨rfl, -⟩ | ⟨rfl, -⟩ <;> decide

/-- What the reader does at a place where it can go on. -/
inductive Step : Point → Point → Prop
  | word {stack : List Frame} {cs word next : List Char} {t : Tree} (hword : (word, t) ∈ words)
      (h : skipBlanks cs = word ++ next) :
      Step (.value stack cs) (.after stack t next)
  | number {stack : List Frame} {cs next : List Char} {n : Option Number}
      (h : readNumber (skipBlanks cs) = some (n, next)) :
      Step (.value stack cs) (.after stack (.number n) next)
  | text {stack : List Frame} {cs rest next : List Char} {s : Option String}
      (h : skipBlanks cs = '"' :: rest) (hs : readText .empty rest = some (s, next)) :
      Step (.value stack cs) (.after stack (.text s) next)
  | emptyArray {stack : List Frame} {cs rest next : List Char} (h : skipBlanks cs = '[' :: rest)
      (hr : skipBlanks rest = ']' :: next) :
      Step (.value stack cs) (.after stack (arrayTree stack [] true) next)
  | openArray {stack : List Frame} {cs rest : List Char} (h : skipBlanks cs = '[' :: rest)
      (hr : ∀ next, skipBlanks rest ≠ ']' :: next) :
      Step (.value stack cs) (.value (.array [] :: stack) rest)
  | emptyObject {stack : List Frame} {cs rest next : List Char} (h : skipBlanks cs = '\x7b' :: rest)
      (hr : skipBlanks rest = '\x7d' :: next) :
      Step (.value stack cs) (.after stack (objectTree stack [] true) next)
  | openObject {stack : List Frame} {cs rest : List Char} (h : skipBlanks cs = '\x7b' :: rest)
      (hr : ∀ next, skipBlanks rest ≠ '\x7d' :: next) :
      Step (.value stack cs) (.member stack [] rest)
  | name {stack : List Frame} {members : List (Option String × Tree)}
      {cs rest after next : List Char} {name : Option String} (h : skipBlanks cs = '"' :: rest)
      (hn : readText .empty rest = some (name, after)) (hc : skipBlanks after = ':' :: next) :
      Step (.member stack members cs) (.value (.object members name :: stack) next)
  | nextItem {stack : List Frame} {items : List Tree} {t : Tree} {cs next : List Char}
      (h : skipBlanks cs = ',' :: next) :
      Step (.after (.array items :: stack) t cs) (.value (.array (t :: items) :: stack) next)
  | closeArray {stack : List Frame} {items : List Tree} {t : Tree} {cs next : List Char}
      (h : skipBlanks cs = ']' :: next) :
      Step (.after (.array items :: stack) t cs)
        (.after stack (arrayTree stack (t :: items) true) next)
  | nextMember {stack : List Frame} {members : List (Option String × Tree)} {name : Option String}
      {t : Tree} {cs next : List Char} (h : skipBlanks cs = ',' :: next) :
      Step (.after (.object members name :: stack) t cs) (.member stack ((name, t) :: members) next)
  | closeObject {stack : List Frame} {members : List (Option String × Tree)} {name : Option String}
      {t : Tree} {cs next : List Char} (h : skipBlanks cs = '\x7d' :: next) :
      Step (.after (.object members name :: stack) t cs)
        (.after stack (objectTree stack ((name, t) :: members) true) next)

/-- The steps to the end of a document, the tree it holds and what stands behind it. -/
inductive Run : Point → Tree → List Char → Prop
  | done (t : Tree) (cs : List Char) : Run (.after [] t cs) t cs
  | step {p q : Point} {t : Tree} {rest : List Char} (h : Step p q) (hq : Run q t rest) :
      Run p t rest

variable {p q : Point} {t : Tree} {v : Value} {cs rest : List Char}

theorem Step.read_eq (h : Step p q) : p.read = q.read := by
  cases h with
  | word hword h =>
    simp only [words, List.mem_cons, Prod.mk.injEq, List.not_mem_nil, or_false] at hword
    rcases hword with ⟨rfl, rfl⟩ | ⟨rfl, rfl⟩ | ⟨rfl, rfl⟩
    · exact readValue_null h
    · exact readValue_true h
    · exact readValue_false h
  | number h => exact readValue_number h
  | text h hs => exact readValue_text h hs
  | emptyArray h hr => exact readValue_array_nil h hr
  | openArray h hr => exact readValue_array h hr
  | emptyObject h hr => exact readValue_object_nil h hr
  | openObject h hr => exact readValue_object h hr
  | name h hn hc => exact readMember_eq h hn hc
  | nextItem h => exact readAfter_array_comma h
  | closeArray h => exact readAfter_array_close h
  | nextMember h => exact readAfter_object_comma h
  | closeObject h => exact readAfter_object_close h

theorem Run.read_eq (h : Run p t rest) : p.read = (t, rest) := by
  induction h with
  | done t cs => rw [Point.read, readAfter]
  | step h _ ih => rw [h.read_eq, ih]

/-! ## Where the reader gets to a value -/

theorem value?_unclosedArray (stack : List Frame) (items : List Tree) :
    (arrayTree stack items false).value? = none := by
  unfold arrayTree
  split_ifs <;> simp [Tree.value?]

theorem value?_unclosedObject (stack : List Frame) (members : List (Option String × Tree)) :
    (objectTree stack members false).value? = none := by
  unfold objectTree
  split_ifs <;> simp [Tree.value?]

theorem value?_breakOff (stack : List Frame) (h : t.value? = none) :
    (breakOff stack t).value? = none := by
  induction stack generalizing t with
  | nil => exact h
  | cons frame stack ih =>
    cases frame with
    | array items => exact ih (value?_unclosedArray stack _)
    | object members name => exact ih (value?_unclosedObject stack _)

theorem value?_broken (stack : List Frame) : (breakOff stack .broken).value? = none :=
  value?_breakOff stack (by simp [Tree.value?])

theorem exists_step (h : p.read.1.value? = some v) :
    (∃ t cs, p = .after [] t cs) ∨ ∃ q, Step p q := by
  cases p with
  | value stack cs =>
    right
    rw [Point.read, readValue] at h
    split at h
    · rename_i hv
      split at h
      · rename_i hr
        exact ⟨_, .emptyArray hv hr⟩
      · rename_i hr
        exact ⟨_, .openArray hv fun next hnext => hr next hnext⟩
    · rename_i hv
      split at h
      · rename_i hr
        exact ⟨_, .emptyObject hv hr⟩
      · rename_i hr
        exact ⟨_, .openObject hv fun next hnext => hr next hnext⟩
    · rename_i hv
      split at h
      · rename_i hs
        exact ⟨_, .text hv hs⟩
      · simp [value?_broken] at h
    · rename_i hv
      have hword : ("null".toList, Tree.null) ∈ words := by simp [words]
      exact ⟨_, .word hword hv⟩
    · rename_i hv
      have hword : ("true".toList, Tree.bool true) ∈ words := by simp [words]
      exact ⟨_, .word hword hv⟩
    · rename_i hv
      have hword : ("false".toList, Tree.bool false) ∈ words := by simp [words]
      exact ⟨_, .word hword hv⟩
    · split at h
      · rename_i hn
        exact ⟨_, .number hn⟩
      · simp [value?_broken] at h
  | member stack members cs =>
    right
    rw [Point.read, readMember] at h
    split at h
    · rename_i hm
      split at h
      · rename_i hn
        split at h
        · rename_i hc
          exact ⟨_, .name hm hn hc⟩
        · simp [value?_broken] at h
      · simp [value?_breakOff, value?_unclosedObject] at h
    · simp [value?_breakOff, value?_unclosedObject] at h
  | after stack t cs =>
    rcases stack with _ | ⟨items | ⟨members, name⟩, stack⟩
    · exact .inl ⟨t, cs, rfl⟩
    · right
      rw [Point.read, readAfter] at h
      split at h
      · rename_i ha
        exact ⟨_, .nextItem ha⟩
      · rename_i ha
        exact ⟨_, .closeArray ha⟩
      · simp [value?_breakOff, value?_unclosedArray] at h
    · right
      rw [Point.read, readAfter] at h
      split at h
      · rename_i ha
        exact ⟨_, .nextMember ha⟩
      · rename_i ha
        exact ⟨_, .closeObject ha⟩
      · simp [value?_breakOff, value?_unclosedObject] at h

theorem Step.length_lt (h : Step p q) : q.chars.length < p.chars.length := by
  cases h with
  | @word stack cs word next t hword h =>
    have hcs := length_skipBlanks_le cs
    have hpos := List.length_pos_iff.2 (words_ne_nil hword)
    rw [h, List.length_append] at hcs
    simp only [Point.chars]
    omega
  | number h => exact (length_readNumber_lt h).trans_le (length_skipBlanks_le _)
  | text h hs => exact (length_readText_lt hs).trans (length_of_skipBlanks h)
  | emptyArray h hr => exact (length_of_skipBlanks hr).trans (length_of_skipBlanks h)
  | openArray h hr => exact length_of_skipBlanks h
  | emptyObject h hr => exact (length_of_skipBlanks hr).trans (length_of_skipBlanks h)
  | openObject h hr => exact length_of_skipBlanks h
  | name h hn hc =>
    exact (length_of_skipBlanks hc).trans ((length_readText_lt hn).trans (length_of_skipBlanks h))
  | nextItem h => exact length_of_skipBlanks h
  | closeArray h => exact length_of_skipBlanks h
  | nextMember h => exact length_of_skipBlanks h
  | closeObject h => exact length_of_skipBlanks h

/-- A reader that gets to a value makes a run. -/
theorem run_read (p : Point) (h : p.read.1.value? = some v) : Run p p.read.1 p.read.2 := by
  induction hn : p.chars.length using Nat.strong_induction_on generalizing p with
  | _ n ih =>
    subst hn
    -- the functions of the reader take turns, but each of their steps makes the text shorter
    rcases exists_step h with ⟨t, cs, rfl⟩ | ⟨q, hq⟩
    · rw [Point.read, readAfter]
      exact .done t cs
    · rw [hq.read_eq] at h ⊢
      exact .step hq (ih _ hq.length_lt q h rfl)

theorem ofText?_eq_some_iff : Value.ofText? (String.ofList cs) = some v ↔
    ∃ t rest, Run (.value [] cs) t rest ∧ t.value? = some v ∧ skipBlanks rest = [] := by
  have hread : Value.ofText? (String.ofList cs) = some v ↔
      (Point.value [] cs).read.1.value? = some v ∧
        skipBlanks (Point.value [] cs).read.2 = [] := by
    simp only [Value.ofText?, Tree.read, Point.read, String.toList_ofList]
    split_ifs with hrest
    · simp [List.isEmpty_iff.1 hrest]
    · simp [List.isEmpty_iff.not.1 hrest]
  rw [hread]
  constructor
  · rintro ⟨hv, hrest⟩
    exact ⟨_, _, run_read _ hv, hv, hrest⟩
  · rintro ⟨t, rest, hrun, hv, hrest⟩
    rw [hrun.read_eq]
    exact ⟨hv, hrest⟩

end LoadTest.Json
