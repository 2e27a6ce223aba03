import QueryAdvisor.Text.Pieces

/-!
# Inputs

An input is a file, or standard input when its path is `-`. Paths are compared
by their components, so a slash at the end makes no difference. Standard
input can be read once only.
-/

namespace QueryAdvisor.Command

/-- Whether a path stands for standard input. -/
def isStandardInput (path : String) : Bool :=
  match Text.pieces '/' path.toList with
  | ['-'] :: rest => rest.all fun part => part.isEmpty || part == ['.']
  | _ => false

/-- Whether at most one of some paths stands for standard input. -/
def atMostOneStandardInput (paths : List String) : Bool :=
  (paths.filter isStandardInput).length ≤ 1

/-- What is reported when standard input is asked for twice. -/
def manyStandardInputs : String :=
  "only one input can be read from stdin"

end QueryAdvisor.Command
