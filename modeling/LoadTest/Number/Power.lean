/-!
# Powers of natural numbers

A power of natural numbers is that of the core library, also where another library adds its own.
-/

namespace LoadTest

@[default_instance 20000]
instance (priority := 2000) powNat : Pow Nat Nat :=
  instPowNat

end LoadTest
