/-!
# Entries in order

Named values in the order in which their names first came. `insert` gives a known name its new
value where it stands and puts a new name last, so names stay distinct once they are.
-/

namespace LoadTest

/-- Named values in some order. -/
abbrev Entries (β : Type) := List (String × β)

namespace Entries

variable {β : Type}

/-- Gives a name a new value, in its place if it has one. -/
def insert (name : String) (value : β) : Entries β → Entries β
  | [] => [(name, value)]
  | (n, v) :: rest => if n = name then (n, value) :: rest else (n, v) :: insert name value rest

/-- The value of the first entry of that name. -/
def get? (name : String) : Entries β → Option β
  | [] => none
  | (n, v) :: rest => if n = name then some v else get? name rest

/-- The names of the entries, in their order. -/
def names (entries : Entries β) : List String :=
  entries.map Prod.fst

/-- Takes over the entries of `later`, one by one. -/
def override (entries later : Entries β) : Entries β :=
  later.foldl (fun acc entry => acc.insert entry.1 entry.2) entries

/-- Repeated names keep their first place and their last value. -/
def ofList (pairs : List (String × β)) : Entries β :=
  override [] pairs

end Entries

end LoadTest
