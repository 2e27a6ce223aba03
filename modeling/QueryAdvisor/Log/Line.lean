import QueryAdvisor.Log.Filter
import QueryAdvisor.Log.Settings

/-!
# Log lines

What is left of the events once the settings and the filter have been applied.
An event is shown with its innermost span among those that the filter shows.
The boundaries of spans are shown only when the settings ask for them.
-/

namespace QueryAdvisor.Log

/-- An event as it is shown. -/
structure Line where
  level : Level
  target : String
  message : String
  fields : Fields
  /-- The name of the innermost span that is shown. -/
  span : Option String
  /-- Whether the place in the program is told. -/
  located : Bool

namespace Line

/-- The line of an event, if it is shown. -/
def ofEvent? (settings : Settings) (filter : Filter) (e : Event) : Option Line :=
  if filter.allows e.level e.target && (settings.spans || !e.isBoundary) then
    some
      { level := e.level
        target := e.target
        message := e.message
        fields := e.fields
        span := (e.within.find? fun s => filter.allows s.level s.target).map Span.name
        located := settings.located }
  else none

/-- A line as a JSON object. -/
def toTree (l : Line) : Tree :=
  .object ([("level", .text l.level.name), ("fields", .object (("message", .text l.message) :: l.fields)),
    ("target", .text l.target)]
    ++ (match l.span with
        | some name => [("span", .object [("name", .text name)])]
        | none => []))

end Line

/-- The filter to use: that of the environment if it can be read, else that of
the settings. -/
def Settings.filterOr (s : Settings) (environment : Option String) : Filter :=
  match environment.bind Filter.ofText? with
  | some filter => filter
  | none => (Filter.ofText? s.filter).getD Filter.errorsOnly

/-- The lines of some events. -/
def lines (settings : Settings) (environment : Option String) (events : List Event) : List Line :=
  events.filterMap (Line.ofEvent? settings (settings.filterOr environment))

end QueryAdvisor.Log
