import QueryAdvisor.Command.Input

/-!
# Reading inputs

A computation that reads inputs is a tree of questions: it has come to a
result, or it asks for an input and goes on with the answer. So nothing is
read that is not asked for, and what is asked for is known. `Reading.answered`
takes the answers from a function and keeps the inputs that were read.
-/

namespace QueryAdvisor.Command

/-- Where an input comes from. -/
inductive Source where
  | standardInput
  | file (path : String)
deriving DecidableEq, Repr

/-- The source that a path stands for. -/
def Source.ofPath (path : String) : Source :=
  if isStandardInput path then .standardInput else .file path

/-- Why an input could not be read. -/
inductive ReadError where
  | notFound
  | isDirectory
  | notDirectory
  | notText
  | other (reason : String)
deriving DecidableEq, Repr

namespace ReadError

def message : ReadError → String
  | .notFound => "No such file or directory (os error 2)"
  | .isDirectory => "Is a directory (os error 21)"
  | .notDirectory => "Not a directory (os error 20)"
  | .notText => "stream did not contain valid UTF-8"
  | .other reason => reason

end ReadError

/-- The outcome of reading an input as text. -/
abbrev Answer := Except ReadError String

/-- A computation that reads inputs one after the other. -/
inductive Reading (α : Type) where
  | done (result : α)
  | ask (source : Source) (next : Answer → Reading α)

namespace Reading

/-- Goes on with the result of a computation. -/
def andThen {α β : Type} (next : α → Reading β) : Reading α → Reading β
  | .done result => next result
  | .ask source more => .ask source fun answer => (more answer).andThen next

/-- Runs a computation with the answers of a function: the inputs that it
asked for, in order, and its result. -/
def answered {α : Type} (answer : Source → Answer) : Reading α → List Source × α
  | .done result => ([], result)
  | .ask source next =>
      let (sources, result) := (next (answer source)).answered answer
      (source :: sources, result)

end Reading

end QueryAdvisor.Command
