import QueryAdvisor.Log.Event
import QueryAdvisor.Text.Pieces

/-!
# Log filters

A filter is written as directives between commas. A directive is a level, a
target, or a target and a level with `=` between them; a level alone is for
every target, and a target alone has every level. The most specific directive
whose target an event's target starts with decides whether the event is
shown. Without any directive only errors are shown.
-/

namespace QueryAdvisor.Log

/-- What is shown of the targets that start with a text. -/
structure Directive where
  target : List Char
  /-- The greatest rank that is shown; zero shows nothing. -/
  limit : Nat
deriving DecidableEq, Repr

/-- The greatest rank that a text names: `off`, the name of a level in any
letter case, or the rank itself. -/
def limit? (s : List Char) : Option Nat :=
  let name := (String.ofList s).toUpper
  if name = "OFF" then some 0
  else
    match Level.all.lookup name with
    | some level => some level.rank
    | none => ["0", "1", "2", "3", "4", "5"].idxOf? name

/-- Whether a character may stand in the name of a target. -/
def isTargetChar (c : Char) : Bool :=
  c.isAlphanum || c == '_' || c == ':' || c == '-' || c == '.'

namespace Directive

/-- The rank that shows everything. -/
def showAll : Nat := Level.trace.rank

/-- A target with the text behind its `=`. -/
def ofParts? (target level : List Char) : Option Directive :=
  if target.isEmpty || !target.all isTargetChar then none
  else if level.isEmpty then some ⟨target, showAll⟩
  else (limit? level).map fun limit => ⟨target, limit⟩

/-- Reads a directive. -/
def ofChars? (s : List Char) : Option Directive :=
  match s.dropWhile (· != '=') with
  | '=' :: level => ofParts? (s.takeWhile (· != '=')) level
  | _ =>
      match limit? s with
      | some limit => some ⟨[], limit⟩
      | none => ofParts? s []

end Directive

/-- Directives in no particular order. -/
abbrev Filter := List Directive

namespace Filter

/-- Shows errors only. -/
def errorsOnly : Filter := [⟨[], Level.error.rank⟩]

/-- Reads a filter; a text with a malformed directive is none. -/
def ofText? (s : String) : Option Filter :=
  match ((Text.pieces ',' s.toList).filter (! ·.isEmpty)).mapM Directive.ofChars? with
  | some [] => some errorsOnly
  | directives => directives

/-- The directive that decides about a target: of those whose target it starts
with the longest, and of equals the last. -/
def deciding? (target : List Char) : Filter → Option Directive
  | [] => none
  | d :: rest =>
      match deciding? target rest with
      | some e =>
          if d.target.isPrefixOf target && e.target.length < d.target.length then some d
          else some e
      | none => if d.target.isPrefixOf target then some d else none

/-- Whether what has a level and a target is shown. -/
def allows (f : Filter) (level : Level) (target : String) : Bool :=
  match f.deciding? target.toList with
  | some d => level.rank ≤ d.limit
  | none => false

end Filter

end QueryAdvisor.Log
