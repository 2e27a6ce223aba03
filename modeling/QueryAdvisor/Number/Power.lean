/-!
# Powers of two and of ten

A natural number has so many bits when it is below that power of two.
-/

namespace QueryAdvisor

def twoTo (exponent : Nat) : Nat :=
  Nat.pow 2 exponent

def tenTo (exponent : Nat) : Nat :=
  Nat.pow 10 exponent

end QueryAdvisor
