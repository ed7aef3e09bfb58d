/-!
# Request methods
-/

namespace LoadTest

/-- How a request is sent. -/
inductive Method where
  | get
  | post
  | put
  | delete
  | patch
deriving DecidableEq

namespace Method

/-- The methods that can be chosen. -/
def all : List Method :=
  [.get, .post, .put, .delete, .patch]

/-- The name of the method in a request. -/
def id : Method → String
  | .get => "GET"
  | .post => "POST"
  | .put => "PUT"
  | .delete => "DELETE"
  | .patch => "PATCH"

/-- The method of that name. -/
def ofId? (s : String) : Option Method :=
  all.find? fun m => m.id == s

/-- Requests of the other methods are sent without a payload. -/
def carriesBody : Method → Bool
  | .post | .put | .patch => true
  | .get | .delete => false

/-- The function of the script's HTTP module that sends the request. -/
def function : Method → String
  | .get => "get"
  | .post => "post"
  | .put => "put"
  | .delete => "del"
  | .patch => "patch"

theorem mem_all (m : Method) : m ∈ all := by
  cases m <;> decide

end Method

end LoadTest
