import QueryAdvisor.Report.PlanOutline
import QueryAdvisor.Report.TreeOutline
import QueryAdvisor.Response

/-!
# Responses as text

A response is shown as a numbered list of its suggestions and, if asked for,
the outlines of its plan and of its parse tree.
-/

namespace QueryAdvisor

/-- What is shown besides the suggestions. -/
structure TextOptions where
  plan : Bool := false
  ast : Bool := false
  /-- How many levels of the parse tree are shown below its root. -/
  astDepth : Nat := 4
deriving DecidableEq, Repr

/-- A line of a suggestion behind a mark, unless it has no text. -/
def markedLine (mark text : String) : String :=
  if text = "" then "" else "   " ++ mark ++ " " ++ text ++ "\n"

/-- A suggestion under its number. -/
def suggestionEntry (number : Nat) (s : Suggestion) : String :=
  String.ofList (Nat.toDigits 10 number) ++ ". [" ++ s.severity.name ++ "] " ++ s.title ++ "\n"
    ++ markedLine "-" s.description ++ markedLine "*" s.recommendation ++ "\n"

/-- Suggestions under consecutive numbers. -/
def suggestionEntries (number : Nat) : List Suggestion → String
  | [] => ""
  | s :: rest => suggestionEntry number s ++ suggestionEntries (number + 1) rest

/-- The numbered list of suggestions. -/
def suggestionText (suggestions : List Suggestion) : String :=
  "Suggestions:\n"
    ++ (if suggestions.isEmpty then "  (none)\n" else suggestionEntries 1 suggestions)

/-- An outline under a heading, or the remark that there is none. -/
def outlineSection (heading : String) (outline : Option Outline) : String :=
  heading ++ "\n"
    ++ (match outline with
        | some outline => outline.render
        | none => "  (unavailable)\n")

namespace Response

/-- A response as text. -/
def toText (options : TextOptions) (r : Response) : String :=
  suggestionText r.suggestions
    ++ (if options.plan then outlineSection "Explain plan:" (planOutline? r.plan) else "")
    ++ (if options.ast then
          outlineSection "AST:" (r.ast.map (treeOutline "root" options.astDepth))
        else "")

end Response

end QueryAdvisor
