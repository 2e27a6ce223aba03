import QueryAdvisor.Tree.Basic

/-!
# Log events

An event has a level, the part of the program that it comes from (its target),
a message and named values. Events may happen inside spans; the beginning and
the end of a span are events too.
-/

namespace QueryAdvisor.Log

/-- How important an event is. -/
inductive Level where
  | error
  | warn
  | info
  | debug
  | trace
deriving DecidableEq, Repr

namespace Level

/-- All levels under their names, the most important first. -/
def all : List (String × Level) :=
  [("ERROR", .error), ("WARN", .warn), ("INFO", .info), ("DEBUG", .debug), ("TRACE", .trace)]

def name : Level → String
  | .error => "ERROR"
  | .warn => "WARN"
  | .info => "INFO"
  | .debug => "DEBUG"
  | .trace => "TRACE"

/-- One for the most important level, and one more for each level below it. -/
def rank : Level → Nat
  | .error => 1
  | .warn => 2
  | .info => 3
  | .debug => 4
  | .trace => 5

end Level

/-- A stretch of work. -/
structure Span where
  name : String
  level : Level
  target : String
deriving DecidableEq, Repr

/-- Something worth telling. -/
structure Event where
  level : Level
  target : String
  message : String
  /-- Named values, sorted by name. -/
  fields : Fields := []
  /-- The spans that the event happened in, innermost first. -/
  within : List Span := []
  /-- Whether the event is the beginning or the end of its innermost span. -/
  isBoundary : Bool := false

namespace Span

/-- The event at a boundary of a span. -/
def boundary (s : Span) (message : String) (outer : List Span) : Event where
  level := s.level
  target := s.target
  message := message
  within := s :: outer
  isBoundary := true

/-- The events of a span around those that happen in it. -/
def around (s : Span) (outer : List Span) (inside : List Event) : List Event :=
  s.boundary "new" outer :: inside ++ [s.boundary "close" outer]

end Span

end QueryAdvisor.Log
