import LoadTest.Json.Tree
import LoadTest.Json.Units

/-!
# Reading JSON

`Tree.read` takes the first tree off a text. It goes through the text once, from left to right,
with the containers that are still open on a stack, so that it stops at the first place where
the text is not JSON, however deep.

`Value.ofText?` reads a text that holds one value and nothing else but blanks.
-/

namespace LoadTest.Json

/-- The characters that may stand between the tokens of a document. -/
def isBlank (c : Char) : Bool :=
  c = ' ' || c = '\t' || c = '\n' || c = '\r'

/-- What stands behind blanks. -/
def skipBlanks (cs : List Char) : List Char :=
  cs.dropWhile isBlank

theorem length_skipBlanks_le (cs : List Char) : (skipBlanks cs).length ≤ cs.length :=
  (List.dropWhile_sublist _).length_le

/-- The value of a hexadecimal digit. -/
def hexValue? (c : Char) : Option Nat :=
  if '0' ≤ c ∧ c ≤ '9' then some (c.toNat - '0'.toNat)
  else if 'a' ≤ c ∧ c ≤ 'f' then some (c.toNat - 'a'.toNat + 10)
  else if 'A' ≤ c ∧ c ≤ 'F' then some (c.toNat - 'A'.toNat + 10)
  else none

/-- The unit that four hexadecimal digits stand for. -/
def unit? (a b c d : Char) : Option Nat :=
  match hexValue? a, hexValue? b, hexValue? c, hexValue? d with
  | some a, some b, some c, some d => some (((a * 16 + b) * 16 + c) * 16 + d)
  | _, _, _, _ => none

/-- The character that stands behind a backslash for `c`. -/
def unescaped? (c : Char) : Option Char :=
  if c = '"' ∨ c = '\\' ∨ c = '/' then some c
  else if c = 'b' then some '\x08'
  else if c = 'f' then some '\x0c'
  else if c = 'n' then some '\n'
  else if c = 'r' then some '\r'
  else if c = 't' then some '\t'
  else none

/-- The rest of a text behind its opening quotation mark, and what follows the closing one. -/
def readText (draft : Draft) : List Char → Option (Option String × List Char)
  | '\\' :: 'u' :: a :: b :: c :: d :: rest =>
    match unit? a b c d with
    | some unit => readText (draft.pushUnit unit) rest
    | none => none
  | '\\' :: c :: rest =>
    match unescaped? c with
    | some c => readText (draft.push c) rest
    | none => none
  | c :: rest =>
    if c = '"' then some (draft.text?, rest)
    else if c = '\\' ∨ c.toNat < 0x20 then none
    else readText (draft.push c) rest
  | [] => none

theorem length_readText_lt {draft : Draft} {cs : List Char} {s : Option String}
    {rest : List Char} (h : readText draft cs = some (s, rest)) : rest.length < cs.length := by
  fun_induction readText draft cs <;> simp_all <;> omega

/-- The number that digits stand for, nothing if it is beyond the doubles. -/
def Number.ofDigits (negative : Bool) (whole : List Char) : Option Number :=
  let n := Nat.ofDigitChars 10 whole 0
  if !negative && decide (n < 2 ^ 64) then some (.natural (UInt64.ofNat n))
  else if h : negative = true ∧ 0 < n ∧ n ≤ 2 ^ 63 then
    some (.negative ⟨n - 1, Nat.sub_one_lt_of_le h.2.1 h.2.2⟩)
  else match (Decimal.ofParts negative whole [] 0).nearest with
    | .finite x => some (.real x)
    | _ => none

/-- The double nearest to a numeral, nothing if it is beyond the last. -/
def Number.ofParts (negative : Bool) (whole fraction : List Char) (exponent : Int) :
    Option Number :=
  match (Decimal.ofParts negative whole fraction exponent).nearest with
  | .finite x => some (.real x)
  | _ => none

/-- The exponent of a number and what follows it. -/
def readExponent (cs : List Char) : Option (Int × List Char) :=
  let (negative, cs) := match cs with
    | '-' :: rest => (true, rest)
    | '+' :: rest => (false, rest)
    | rest => (false, rest)
  let digits := cs.takeWhile Char.isDigit
  if digits.isEmpty then none
  else
    let n := Nat.ofDigitChars 10 digits 0
    some (if negative then -(n : Int) else n, cs.dropWhile Char.isDigit)

/-- A number without its sign, and what follows it. -/
def readUnsigned (negative : Bool) (cs : List Char) : Option (Option Number × List Char) :=
  let whole := cs.takeWhile Char.isDigit
  let rest := cs.dropWhile Char.isDigit
  if whole.isEmpty || (whole.head? == some '0' && 1 < whole.length) then none
  else
    let fractional : Option (List Char × List Char) := match rest with
      | '.' :: more =>
        let digits := more.takeWhile Char.isDigit
        if digits.isEmpty then none else some (digits, more.dropWhile Char.isDigit)
      | _ => some ([], rest)
    match fractional with
    | none => none
    | some (fraction, c :: more) =>
      if c = 'e' ∨ c = 'E' then
        match readExponent more with
        | some (exponent, rest) => some (Number.ofParts negative whole fraction exponent, rest)
        | none => none
      else if fraction.isEmpty then some (Number.ofDigits negative whole, c :: more)
      else some (Number.ofParts negative whole fraction 0, c :: more)
    | some (fraction, []) =>
      if fraction.isEmpty then some (Number.ofDigits negative whole, [])
      else some (Number.ofParts negative whole fraction 0, [])

/-- A number and what follows it, nothing if no numeral stands there. -/
def readNumber : List Char → Option (Option Number × List Char)
  | '-' :: rest => readUnsigned true rest
  | cs => readUnsigned false cs

theorem length_dropWhile_le (p : Char → Bool) (cs : List Char) :
    (cs.dropWhile p).length ≤ cs.length :=
  (List.dropWhile_sublist _).length_le

theorem length_dropWhile_lt {p : Char → Bool} {cs : List Char}
    (h : (cs.takeWhile p).isEmpty = false) : (cs.dropWhile p).length < cs.length := by
  cases cs with
  | nil => simp at h
  | cons c cs =>
    by_cases hc : p c
    · simpa [hc, Nat.lt_succ_iff] using length_dropWhile_le p cs
    · simp [hc] at h

theorem length_readExponent_le {cs : List Char} {exponent : Int} {rest : List Char}
    (h : readExponent cs = some (exponent, rest)) : rest.length ≤ cs.length := by
  unfold readExponent at h
  split at h
  rename_i negative cs' heq
  have hle : cs'.length ≤ cs.length := by
    split at heq <;> cases heq <;> simp
  simp only at h
  split at h
  · simp at h
  · simp only [Option.some.injEq, Prod.mk.injEq] at h
    rw [← h.2]
    exact Nat.le_trans (length_dropWhile_le _ _) hle

theorem length_readUnsigned_lt {negative : Bool} {cs : List Char} {n : Option Number}
    {rest : List Char} (h : readUnsigned negative cs = some (n, rest)) :
    rest.length < cs.length := by
  unfold readUnsigned at h
  simp only at h
  split at h
  · simp at h
  rename_i hwhole
  have hlt : (cs.dropWhile Char.isDigit).length < cs.length := by
    apply length_dropWhile_lt
    simp only [Bool.or_eq_true, not_or, Bool.not_eq_true] at hwhole
    exact hwhole.1
  have key : ∀ {fraction more : List Char},
      (match cs.dropWhile Char.isDigit with
      | '.' :: more =>
        if (more.takeWhile Char.isDigit).isEmpty then none
        else some (more.takeWhile Char.isDigit, more.dropWhile Char.isDigit)
      | _ => some ([], cs.dropWhile Char.isDigit)) = some (fraction, more) →
      more.length < cs.length := by
    intro fraction more hm
    split at hm
    · rename_i more' heq
      split at hm
      · simp at hm
      · simp only [Option.some.injEq, Prod.mk.injEq] at hm
        have := length_dropWhile_le Char.isDigit more'
        rw [heq] at hlt
        rw [← hm.2]
        simp only [List.length_cons] at hlt
        omega
    · simp only [Option.some.injEq, Prod.mk.injEq] at hm
      rw [← hm.2]
      exact hlt
  split at h
  · simp at h
  · rename_i fraction c more heq
    have hmore := key heq
    simp only [List.length_cons] at hmore
    split at h
    · split at h
      · rename_i exponent rest' hexp
        have := length_readExponent_le hexp
        simp only [Option.some.injEq, Prod.mk.injEq] at h
        rw [← h.2]
        omega
      · simp at h
    · split at h <;> simp only [Option.some.injEq, Prod.mk.injEq] at h <;> rw [← h.2] <;>
        simpa using hmore
  · rename_i fraction heq
    have hmore := key heq
    split at h <;> simp only [Option.some.injEq, Prod.mk.injEq] at h <;> rw [← h.2] <;>
      simpa using hmore

theorem length_readNumber_lt {cs : List Char} {n : Option Number} {rest : List Char}
    (h : readNumber cs = some (n, rest)) : rest.length < cs.length := by
  unfold readNumber at h
  split at h
  · have := length_readUnsigned_lt h
    simp only [List.length_cons]
    omega
  · exact length_readUnsigned_lt h

/-- A container that is open, with what it holds so far, the last first. -/
inductive Frame where
  | array (items : List Tree)
  | object (members : List (Option String × Tree)) (name : Option String)

/-- Whether a container may be kept inside these. -/
def mayKeep (enclosing : List Frame) : Bool :=
  (enclosing.drop 126).isEmpty

/-- An array of these items, the last first, inside the containers that are open. -/
def arrayTree (enclosing : List Frame) (items : List Tree) (closed : Bool) : Tree :=
  if mayKeep enclosing then .array items.reverse closed else .tooDeep closed

/-- An object of these members, the last first, inside the containers that are open. -/
def objectTree (enclosing : List Frame) (members : List (Option String × Tree)) (closed : Bool) :
    Tree :=
  if mayKeep enclosing then .object members.reverse closed else .tooDeep closed

/-- The whole tree, when the text breaks off at `t` with these containers open. -/
def breakOff : List Frame → Tree → Tree
  | [], t => t
  | .array items :: stack, t => breakOff stack (arrayTree stack (t :: items) false)
  | .object members name :: stack, t =>
    breakOff stack (objectTree stack ((name, t) :: members) false)

theorem length_of_skipBlanks {cs rest : List Char} {c : Char} (h : skipBlanks cs = c :: rest) :
    rest.length < cs.length := by
  have := length_skipBlanks_le cs
  rw [h, List.length_cons] at this
  omega

mutual

/-- Reads a value inside the open containers. -/
def readValue (stack : List Frame) (cs : List Char) : Tree × List Char :=
  match _hv : skipBlanks cs with
  | '[' :: rest =>
    match _hr : skipBlanks rest with
    | ']' :: next => readAfter stack (arrayTree stack [] true) next
    | _ => readValue (.array [] :: stack) rest
  | '\x7b' :: rest =>
    match _hr : skipBlanks rest with
    | '\x7d' :: next => readAfter stack (objectTree stack [] true) next
    | _ => readMember stack [] rest
  | '"' :: rest =>
    match _hr : readText .empty rest with
    | some (s, next) => readAfter stack (.text s) next
    | none => (breakOff stack .broken, [])
  | 'n' :: 'u' :: 'l' :: 'l' :: next => readAfter stack .null next
  | 't' :: 'r' :: 'u' :: 'e' :: next => readAfter stack (.bool true) next
  | 'f' :: 'a' :: 'l' :: 's' :: 'e' :: next => readAfter stack (.bool false) next
  | rest =>
    match _hr : readNumber rest with
    | some (n, next) => readAfter stack (.number n) next
    | none => (breakOff stack .broken, [])
termination_by cs.length
decreasing_by
  · exact Nat.lt_trans (length_of_skipBlanks _hr) (length_of_skipBlanks _hv)
  · exact length_of_skipBlanks _hv
  · exact Nat.lt_trans (length_of_skipBlanks _hr) (length_of_skipBlanks _hv)
  · exact length_of_skipBlanks _hv
  · exact Nat.lt_trans (length_readText_lt _hr) (length_of_skipBlanks _hv)
  iterate 3
    · have hcs := length_skipBlanks_le cs
      rw [_hv] at hcs
      simp only [List.length_cons] at hcs
      omega
  · have hcs := length_skipBlanks_le cs
    have := length_readNumber_lt _hr
    rw [_hv] at hcs
    omega

/-- Reads a name, its colon and its value, and puts them to the members of a new container. -/
def readMember (stack : List Frame) (members : List (Option String × Tree)) (cs : List Char) :
    Tree × List Char :=
  match _hm : skipBlanks cs with
  | '"' :: rest =>
    match _hn : readText .empty rest with
    | some (name, rest') =>
      match _hc : skipBlanks rest' with
      | ':' :: next => readValue (.object members name :: stack) next
      | _ => (breakOff (.object members name :: stack) .broken, [])
    | none => (breakOff stack (objectTree stack members false), [])
  | _ => (breakOff stack (objectTree stack members false), [])
termination_by cs.length
decreasing_by
  exact Nat.lt_trans (length_of_skipBlanks _hc)
    (Nat.lt_trans (length_readText_lt _hn) (length_of_skipBlanks _hm))

/-- Goes on behind a complete tree. -/
def readAfter (stack : List Frame) (t : Tree) (cs : List Char) : Tree × List Char :=
  match stack with
  | [] => (t, cs)
  | .array items :: stack =>
    match _ha : skipBlanks cs with
    | ',' :: next => readValue (.array (t :: items) :: stack) next
    | ']' :: next => readAfter stack (arrayTree stack (t :: items) true) next
    | _ => (breakOff stack (arrayTree stack (t :: items) false), [])
  | .object members name :: stack =>
    match _ha : skipBlanks cs with
    | ',' :: next => readMember stack ((name, t) :: members) next
    | '\x7d' :: next => readAfter stack (objectTree stack ((name, t) :: members) true) next
    | _ => (breakOff stack (objectTree stack ((name, t) :: members) false), [])
termination_by cs.length
decreasing_by
  all_goals exact length_of_skipBlanks _ha

end

/-- The first tree of a text and what follows it. -/
def Tree.read (cs : List Char) : Tree × List Char :=
  readValue [] cs

/-- The value that a text holds, if it holds one and nothing else. -/
def Value.ofText? (text : String) : Option Value :=
  let (t, rest) := Tree.read text.toList
  if (skipBlanks rest).isEmpty then t.value? else none

end LoadTest.Json
