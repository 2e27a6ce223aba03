import QueryAdvisor.Json.Record

/-!
# Suggestions

A suggestion says what was found, what to do about it and how much it
matters. Severities are ordered from `low` to `high`.
-/

namespace QueryAdvisor

/-- How much a suggestion matters. -/
inductive Severity where
  | low
  | medium
  | high
deriving DecidableEq, Repr

namespace Severity

def name : Severity → String
  | .low => "Low"
  | .medium => "Medium"
  | .high => "High"

/-- All severities under their names, the least severe first. -/
def all : List (String × Severity) :=
  [("Low", .low), ("Medium", .medium), ("High", .high)]

def rank : Severity → Nat
  | .low => 0
  | .medium => 1
  | .high => 2

/-- The more severe of two. -/
def max (a b : Severity) : Severity :=
  if a.rank ≤ b.rank then b else a

/-- The most severe of a list. -/
def maximum? : List Severity → Option Severity
  | [] => none
  | a :: rest => some (rest.foldl max a)

end Severity

/-- One finding of a rule. -/
structure Suggestion where
  title : String
  description : String
  recommendation : String
  severity : Severity
deriving DecidableEq, Repr

namespace Suggestion

def toTree (s : Suggestion) : Tree :=
  .object
    [("title", .text s.title), ("description", .text s.description),
      ("recommendation", .text s.recommendation), ("severity", .text s.severity.name)]

/-- What is known of a suggestion while it is read. -/
structure Draft where
  title : Option String := none
  description : Option String := none
  recommendation : Option String := none
  severity : Option Severity := none

def Draft.build (d : Draft) : Except String Suggestion :=
  match d.title, d.description, d.recommendation, d.severity with
  | none, _, _, _ => .error "title"
  | _, none, _, _ => .error "description"
  | _, _, none, _ => .error "recommendation"
  | _, _, _, none => .error "severity"
  | some title, some description, some recommendation, some severity =>
      .ok ⟨title, description, recommendation, severity⟩

/-- A suggestion has four fields and needs them all. -/
def shape : Json.Shape Draft Suggestion where
  name := "Suggestion"
  slots :=
    [⟨"title", fun d => d.title.isSome, fun d => do pure { d with title := some (← Json.text) },
        false⟩,
      ⟨"description", fun d => d.description.isSome,
        fun d => do pure { d with description := some (← Json.text) }, false⟩,
      ⟨"recommendation", fun d => d.recommendation.isSome,
        fun d => do pure { d with recommendation := some (← Json.text) }, false⟩,
      ⟨"severity", fun d => d.severity.isSome,
        fun d => do pure { d with severity := some (← Json.variant Severity.all) }, false⟩]
  start := {}
  build := Draft.build

end Suggestion

end QueryAdvisor
