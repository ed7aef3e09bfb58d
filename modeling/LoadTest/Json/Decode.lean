import LoadTest.Json.Tree
import LoadTest.Json.Fault

/-!
# Reading shapes out of documents

A `Decoder` goes through a tree in the order of the text and stops at the first fault. Records are
put together from their members with `<$>` and `<*>`: `Record.ofTree` first checks every member
where it stands and then builds the record, so that a member that is missing is noticed last, in
the order in which the record declares its members.

A record may also stand as an array of its members in declared order.
-/

namespace LoadTest.Json

/-- How a shape is read out of a tree. -/
abbrev Decoder (α : Type) := Tree → Except Fault α

/-- The fault of a tree where something else was expected. -/
def Tree.refuse (t : Tree) (fault : Found → Fault) : Fault :=
  match t with
  | .null => fault .null
  | .bool b => fault (.bool b)
  | .number (some n) => fault (.number n)
  | .number none => .malformed
  | .text (some s) => fault (.text s)
  | .text none => .malformed
  | .array _ _ => fault .sequence
  | .object _ _ => fault .map
  | .tooDeep _ => .malformed
  | .broken => .malformed

namespace Decoder

def text : Decoder String
  | .text (some s) => .ok s
  | t => .error (t.refuse fun found => .wrongType found "a string")

/-- A whole number below `limit`, of the type so called. -/
def naturalBelow (limit : Nat) (type : String) : Decoder Nat
  | .number (some (.natural n)) =>
    if n.toNat < limit then .ok n.toNat else .error (.wrongValue (.number (.natural n)) type)
  | .number (some (.negative below)) => .error (.wrongValue (.number (.negative below)) type)
  | t => .error (t.refuse fun found => .wrongType found type)

/-- A whole number of 32 bits. -/
def uint32 : Decoder UInt32 := fun t =>
  (naturalBelow (2 ^ 32) "u32" t).map UInt32.ofNat

/-- A whole number of 64 bits. -/
def uint64 : Decoder UInt64 := fun t =>
  (naturalBelow (2 ^ 64) "u64" t).map UInt64.ofNat

/-- A whole number of 64 bits with a sign. -/
def int64 : Decoder Int64
  | .number (some (.natural n)) =>
    if n.toNat < 2 ^ 63 then .ok (Int64.ofNat n.toNat)
    else .error (.wrongValue (.number (.natural n)) "i64")
  | .number (some (.negative below)) => .ok (Int64.ofInt (.negSucc below.val))
  | t => .error (t.refuse fun found => .wrongType found "i64")

/-- Any number, rounded to the nearest double where that is needed. -/
def binary64 : Decoder Binary64
  | .number (some n) => .ok n.toBinary64
  | t => .error (t.refuse fun found => .wrongType found "f64")

/-- A document of any shape that can be kept. -/
def value : Decoder Value := fun t =>
  match t.value? with
  | some v => .ok v
  | none => .error .malformed

/-- Null stands for nothing. -/
def option {α : Type} (decode : Decoder α) : Decoder (Option α)
  | .null => .ok none
  | t => (decode t).map some

/-- Reads items, one after another. -/
def items {α : Type} (decode : Decoder α) : List Tree → Except Fault (List α)
  | [] => .ok []
  | t :: rest => do
    let a ← decode t
    let as ← items decode rest
    pure (a :: as)

/-- An array of items of one shape. -/
def list {α : Type} (decode : Decoder α) : Decoder (List α)
  | .array ts closed => do
    let as ← items decode ts
    if closed then pure as else throw .malformed
  | t => .error (t.refuse fun found => .wrongType found "a sequence")

/-- Nothing at all stands for the empty list. -/
def listOrNull {α : Type} (decode : Decoder α) : Decoder (List α) := fun t =>
  (option (list decode) t).map (·.getD [])

/-- Reads the values of members, one after another. -/
def values : List (Option String × Tree) → Except Fault (List (String × Value))
  | [] => .ok []
  | (some name, t) :: rest => do
    let v ← value t
    let vs ← values rest
    pure ((name, v) :: vs)
  | (none, _) :: _ => .error .malformed

/-- The members of an object, of any shapes. -/
def members : Decoder (Entries Value)
  | .object ms closed => do
    let vs ← values ms
    if closed then pure (Entries.ofList vs) else throw .malformed
  | t => .error (t.refuse fun found => .wrongType found "a map")

/-- What is known under that name. -/
def ofName {α : Type} (known : List (String × α)) (name : String) : Except Fault α :=
  match Entries.get? name known with
  | some a => .ok a
  | none => .error (.unknownVariant name (known.map Prod.fst))

/-- An object that names a variant holds nothing else. -/
def unit : Decoder Unit
  | .null => .ok ()
  | t => .error (t.refuse fun found => .wrongType found "unit")

/-- The variant that the member of an object names. -/
def namedVariant {α : Type} (known : List (String × α)) (name : Option String) (payload : Tree) :
    Except Fault α :=
  match name with
  | none => .error .malformed
  | some name => do
    let a ← ofName known name
    unit payload
    pure a

/-- One of the known names, or an object whose only member has that name and is null. -/
def variant {α : Type} (known : List (String × α)) : Decoder α
  | .text (some name) => ofName known name
  | .object [] _ => .error (.notOneMember false)
  | .object [(name, payload)] closed => do
    let a ← namedVariant known name payload
    if closed then pure a else throw .malformed
  | .object ((name, payload) :: _) _ =>
    .error (.notOneMember (match namedVariant known name payload with
      | .error fault => !fault.spoilsText
      | .ok _ => false))
  | t => .error (t.refuse .notVariant)

end Decoder

/-- One member of a record: how it is read, and what stands for it where it is absent. -/
structure Member (α : Type) where
  name : String
  decode : Decoder α
  /-- In an object. -/
  absent : Option α
  /-- In an array that is too short. -/
  beyond : Option α

namespace Member

variable {α : Type}

/-- A member that may not be left out. -/
def required (name : String) (decode : Decoder α) : Member α :=
  ⟨name, decode, none, none⟩

/-- A member that `default` stands for where it is left out. -/
def withDefault (name : String) (decode : Decoder α) (default : α) : Member α :=
  ⟨name, decode, some default, some default⟩

/-- May be absent or null, but takes its place in an array. -/
def optional (name : String) (decode : Decoder α) : Member (Option α) :=
  ⟨name, .option decode, some none, none⟩

end Member

/-- How a record stands in a document. -/
inductive Form where
  | object
  | array

/-- The members of a record and how it is built from their trees. The function that builds gets
the form of the record and what finds a member's tree by its name; the name of a required member
that is not found is its error. -/
structure Record (α : Type) where
  members : List (String × Decoder Unit)
  build : Form → (String → Option Tree) → Except (String ⊕ Fault) α

namespace Record

variable {α β : Type}

/-- A record without members. -/
def pure (a : α) : Record α :=
  ⟨[], fun _ _ => .ok a⟩

/-- The record of a single member. -/
def ofMember (m : Member α) : Record α where
  members := [(m.name, fun t => (m.decode t).map fun _ => ())]
  build form find :=
    match find m.name with
    | some t => (m.decode t).mapError .inr
    | none =>
      match (match form with | .object => m.absent | .array => m.beyond) with
      | some a => .ok a
      | none => .error (.inl m.name)

/-- The members of both records, those of `f` first. -/
def seq (f : Record (α → β)) (x : Record α) : Record β where
  members := f.members ++ x.members
  build form find := do
    let g ← f.build form find
    let a ← x.build form find
    return g a

/-- Adds a member. -/
def andMember (f : Record (α → β)) (m : Member α) : Record β :=
  f.seq (ofMember m)

/-- Checks the members of an object in their order. -/
def checkMembers (known : List (String × Decoder Unit)) (seen : List String) :
    List (Option String × Tree) → Except Fault Unit
  | [] => .ok ()
  | (none, _) :: _ => .error .malformed
  | (some name, t) :: rest =>
    match Entries.get? name known with
    | none => if t.intact then checkMembers known seen rest else .error .malformed
    | some check =>
      if seen.contains name then .error (.repeatedMember name)
      else do
        check t
        checkMembers known (name :: seen) rest

/-- Checks the items of an array against the members in declared order. -/
def checkItems : List (String × Decoder Unit) → List Tree → Except Fault Unit
  | (_, check) :: known, t :: rest => do
    check t
    checkItems known rest
  | _, _ => .ok ()

/-- The tree of the first member of that name. -/
def findMember (members : List (Option String × Tree)) (name : String) : Option Tree :=
  (members.find? fun m => m.1 == some name).map Prod.snd

/-- The tree of the item that stands where that name is declared. -/
def findItem (names : List String) (items : List Tree) (name : String) : Option Tree :=
  Entries.get? name (names.zip items)

/-- Reads a record, which `title` names in messages. -/
def ofTree (r : Record α) (title : String) : Decoder α
  | .object members closed => do
    checkMembers r.members [] members
    if !closed then throw .malformed
    match r.build .object (findMember members) with
    | .ok a => return a
    | .error (.inl name) => throw (.missingMember name)
    | .error (.inr fault) => throw fault
  | .array items closed => do
    checkItems r.members items
    if r.members.length < items.length then throw (.tooManyItems items.length)
    if !closed then throw .malformed
    let names := r.members.map Prod.fst
    match r.build .array (findItem names items) with
    | .ok a => return a
    | .error (.inl name) => throw (.tooFewItems (names.idxOf name) title names.length)
    | .error (.inr fault) => throw fault
  | t => .error (t.refuse fun found => .wrongType found title)

end Record

end LoadTest.Json
