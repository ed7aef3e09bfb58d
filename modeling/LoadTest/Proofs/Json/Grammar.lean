import LoadTest.Proofs.Json.Number

/-!
# The grammar of documents

Which texts spell a value, said without the reader: words, numbers, texts with their escapes, and
containers whose parts may have blanks around them. `Value.PaddedAs` is a value with blanks around
it, which is what a document is.

Members of an object stand in a value as they do in the text, repeated names and all. What is kept
of it is `Value.joined`, where every name has its first place and its last value. A reader keeps
only so many containers inside each other (`Value.depth`).

A number beyond the doubles and half of a surrogate pair spell nothing.
-/

namespace LoadTest.Json

/-- Nothing but blanks. -/
def AreBlanks (cs : List Char) : Prop :=
  ∀ c ∈ cs, isBlank c = true

/-! ## Texts -/

/-- A unit of 16 bits by its four digits. -/
inductive UnitSpelledAs : ℕ → List Char → Prop
  | mk {a b c d : Char} {n : ℕ} (h : unit? a b c d = some n) :
      UnitSpelledAs n ['\\', 'u', a, b, c, d]

/-- What may stand between quotation marks for these characters. -/
inductive CharsSpelledAs : List Char → List Char → Prop
  | nil : CharsSpelledAs [] []
  | plain {c : Char} {s cs : List Char} (hquote : c ≠ '"') (hslash : c ≠ '\\') (hc : 32 ≤ c.toNat)
      (h : CharsSpelledAs s cs) : CharsSpelledAs (c :: s) (c :: cs)
  | escape {e c : Char} {s cs : List Char} (he : unescaped? e = some c) (h : CharsSpelledAs s cs) :
      CharsSpelledAs (c :: s) ('\\' :: e :: cs)
  | unit {n : ℕ} {unit s cs : List Char} (hn : UnitSpelledAs n unit)
      (hlead : Surrogate.isLead n = false) (htrail : Surrogate.isTrail n = false)
      (h : CharsSpelledAs s cs) : CharsSpelledAs (Char.ofNat n :: s) (unit ++ cs)
  | pair {m n : ℕ} {lead trail s cs : List Char} (hm : UnitSpelledAs m lead)
      (hlead : Surrogate.isLead m = true) (hn : UnitSpelledAs n trail)
      (htrail : Surrogate.isTrail n = true) (h : CharsSpelledAs s cs) :
      CharsSpelledAs (Surrogate.pair m n :: s) (lead ++ (trail ++ cs))

/-- A text is spelled between quotation marks. -/
inductive TextSpelledAs : String → List Char → Prop
  | mk {s : String} {cs : List Char} (h : CharsSpelledAs s.toList cs) :
      TextSpelledAs s ('"' :: (cs ++ ['"']))

/-! ## Numbers -/

/-- An exponent may have a sign. -/
inductive ExponentSpelledAs : ℤ → List Char → Prop
  | unsigned {ds : List Char} (hds : ∀ c ∈ ds, c.isDigit = true) (hne : ds ≠ []) :
      ExponentSpelledAs (Nat.ofDigitChars 10 ds 0) ds
  | positive {ds : List Char} (hds : ∀ c ∈ ds, c.isDigit = true) (hne : ds ≠ []) :
      ExponentSpelledAs (Nat.ofDigitChars 10 ds 0) ('+' :: ds)
  | negative {ds : List Char} (hds : ∀ c ∈ ds, c.isDigit = true) (hne : ds ≠ []) :
      ExponentSpelledAs (-(Nat.ofDigitChars 10 ds 0 : ℕ)) ('-' :: ds)

/-- A number behind its sign. -/
inductive UnsignedSpelledAs (negative : Bool) : Number → List Char → Prop
  | whole {n : Number} {whole : List Char} (hw : IsWhole whole)
      (hn : Number.ofDigits negative whole = some n) : UnsignedSpelledAs negative n whole
  | fraction {n : Number} {whole fraction : List Char} (hw : IsWhole whole)
      (hf : ∀ c ∈ fraction, c.isDigit = true) (hne : fraction ≠ [])
      (hn : Number.ofParts negative whole fraction 0 = some n) :
      UnsignedSpelledAs negative n (whole ++ '.' :: fraction)
  | exponent {n : Number} {whole fraction cs : List Char} {mark : Char} {exponent : ℤ}
      (hw : IsWhole whole) (hf : ∀ c ∈ fraction, c.isDigit = true) (hmark : mark = 'e' ∨ mark = 'E')
      (he : ExponentSpelledAs exponent cs)
      (hn : Number.ofParts negative whole fraction exponent = some n) :
      UnsignedSpelledAs negative n (whole ++ (pointed fraction ++ mark :: cs))

/-- A number is spelled behind its sign, which only a negative one has. -/
inductive Number.SpelledAs : Number → List Char → Prop
  | mk {negative : Bool} {n : Number} {cs : List Char} (h : UnsignedSpelledAs negative n cs) :
      n.SpelledAs (signChars negative ++ cs)

/-! ## Values -/

mutual

/-- What may stand in a document for a value. -/
inductive Value.SpelledAs : Value → List Char → Prop
  | null : Value.SpelledAs .null ['n', 'u', 'l', 'l']
  | true : Value.SpelledAs (.bool true) ['t', 'r', 'u', 'e']
  | false : Value.SpelledAs (.bool false) ['f', 'a', 'l', 's', 'e']
  | number {n : Number} {cs : List Char} (h : n.SpelledAs cs) : Value.SpelledAs (.number n) cs
  | text {s : String} {cs : List Char} (h : TextSpelledAs s cs) : Value.SpelledAs (.text s) cs
  | emptyArray {blanks : List Char} (hb : AreBlanks blanks) :
      Value.SpelledAs (.array []) ('[' :: (blanks ++ [']']))
  | array {item : Value} {items : List Value} {cs more : List Char} (hitem : item.PaddedAs cs)
      (hitems : ItemsSpelledAs items more) :
      Value.SpelledAs (.array (item :: items)) ('[' :: (cs ++ (more ++ [']'])))
  | emptyObject {blanks : List Char} (hb : AreBlanks blanks) :
      Value.SpelledAs (.object []) ('\x7b' :: (blanks ++ ['\x7d']))
  | object {member : String × Value} {members : List (String × Value)} {cs more : List Char}
      (hmember : MemberSpelledAs member cs) (hmembers : MembersSpelledAs members more) :
      Value.SpelledAs (.object (member :: members)) ('\x7b' :: (cs ++ (more ++ ['\x7d'])))

/-- With blanks around it. -/
inductive Value.PaddedAs : Value → List Char → Prop
  | mk {v : Value} {before cs behind : List Char} (hbefore : AreBlanks before)
      (h : v.SpelledAs cs) (hbehind : AreBlanks behind) : v.PaddedAs (before ++ (cs ++ behind))

/-- Every item with the comma before it. -/
inductive ItemsSpelledAs : List Value → List Char → Prop
  | nil : ItemsSpelledAs [] []
  | cons {item : Value} {items : List Value} {cs more : List Char} (hitem : item.PaddedAs cs)
      (hitems : ItemsSpelledAs items more) : ItemsSpelledAs (item :: items) (',' :: (cs ++ more))

/-- A name, a colon and a value, with blanks between them. -/
inductive MemberSpelledAs : String × Value → List Char → Prop
  | mk {name : String} {v : Value} {before quoted behind cs : List Char}
      (hbefore : AreBlanks before) (hname : TextSpelledAs name quoted) (hbehind : AreBlanks behind)
      (hv : v.PaddedAs cs) :
      MemberSpelledAs (name, v) (before ++ (quoted ++ (behind ++ ':' :: cs)))

/-- Every member with the comma before it. -/
inductive MembersSpelledAs : List (String × Value) → List Char → Prop
  | nil : MembersSpelledAs [] []
  | cons {member : String × Value} {members : List (String × Value)} {cs more : List Char}
      (hmember : MemberSpelledAs member cs) (hmembers : MembersSpelledAs members more) :
      MembersSpelledAs (member :: members) (',' :: (cs ++ more))

end

/-! ## What is kept -/

mutual

/-- Repeated names keep their first place and their last value. -/
def Value.joined : Value → Value
  | .array items => .array (itemsJoined items)
  | .object members => .object (Entries.ofList (membersJoined members))
  | v => v

/-- The items, with what is joined inside them. -/
def itemsJoined : List Value → List Value
  | [] => []
  | item :: items => item.joined :: itemsJoined items

/-- The members, with what is joined inside them. -/
def membersJoined : List (String × Value) → List (String × Value)
  | [] => []
  | (name, v) :: members => (name, v.joined) :: membersJoined members

end

mutual

/-- How many containers are inside each other. -/
def Value.depth : Value → ℕ
  | .array items => itemsDepth items + 1
  | .object members => membersDepth members + 1
  | _ => 0

/-- The depth of the deepest item. -/
def itemsDepth : List Value → ℕ
  | [] => 0
  | item :: items => max item.depth (itemsDepth items)

/-- The depth of the deepest member. -/
def membersDepth : List (String × Value) → ℕ
  | [] => 0
  | (_, value) :: members => max value.depth (membersDepth members)

end

end LoadTest.Json
