/-!
# First occurrences

A rule reports a finding once, where it first occurs.
-/

namespace QueryAdvisor

variable {α : Type} [DecidableEq α]

/-- The first occurrences of a list, without those already seen. -/
def distinctFrom (seen : List α) : List α → List α
  | [] => []
  | a :: rest =>
      if a ∈ seen then distinctFrom seen rest else a :: distinctFrom (a :: seen) rest

/-- The first occurrences of a list, in order. -/
def distinct (l : List α) : List α :=
  distinctFrom [] l

end QueryAdvisor
