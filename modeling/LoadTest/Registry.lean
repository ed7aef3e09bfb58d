import LoadTest.Options.Profile

/-!
# What can be chosen

Listings of the executors and test types, in the order in which a form offers them.
-/

namespace LoadTest

open Json (Value)

/-- What a form shows of an executor. -/
def Executor.listing (e : Executor) : Value :=
  .object [("id", .text e.id), ("name", .text e.title), ("description", .text e.description),
    ("category", .text e.category.id)]

/-- What a form shows of a test type, with the options that it brings. -/
def TestType.listing (t : TestType) : Value :=
  .object [("id", .text t.id), ("name", .text t.title), ("description", .text t.description),
    ("options", t.options.toJson)]

/-- All executors. -/
def executorListing : Value :=
  .array (Executor.all.map Executor.listing)

/-- All test types. -/
def testTypeListing : Value :=
  .array (TestType.all.map TestType.listing)

end LoadTest
