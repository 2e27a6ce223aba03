import QueryAdvisor.Command.Options

/-!
# Usage

What is printed when the arguments ask for the version or for help. Help comes
in two forms: a summary with a line for each argument, and a full form in
which each argument stands above what it is for.
-/

namespace QueryAdvisor.Command

/-- The name of the command and its version. -/
def versionText : String := "optiviz 0.1.0\n"

/-- What the help says on an argument. -/
structure ArgumentHelp where
  /-- How the argument is written. -/
  usage : String
  /-- What it is for. -/
  purpose : String
  /-- The variable that replaces it, and its default. -/
  notes : List String := []
  /-- The values it takes, each with its meaning. -/
  values : List (String × String) := []

/-- What each form says on the other. -/
def HelpForm.hint : HelpForm → String
  | .summary => "Print help (see more with '--help')"
  | .full => "Print help (see a summary with '-h')"

/-- The formats of the output, each with its meaning. -/
def formatHelp : List (String × String) :=
  [("json", "Pretty-printed JSON response"),
    ("text", "Numbered suggestion list with optional plan and AST trees"),
    ("table", "Suggestions as a table")]

/-- The arguments, each with what it is for. The value of a variable that holds
a secret is not shown. -/
def argumentHelp (form : HelpForm) (environment : Environment) : List ArgumentHelp :=
  [{ usage := "    --mode <MODE>", purpose := "Analysis mode: manual or connected"
     notes :=
      ["[env: " ++ Environment.modeVariable ++ "=" ++ environment.mode.getD "" ++ "]",
        "[default: manual]"] },
    { usage := "    --sql <PATH>", purpose := "Path to the SQL query file, or '-' for stdin" },
    { usage := "    --explain <PATH>"
      purpose := "Path to EXPLAIN (FORMAT JSON) output, or '-' for stdin (manual mode)" },
    { usage := "    --conn <CONN>", purpose := "PostgreSQL connection string (connected mode)"
      notes := ["[env: " ++ Environment.connectionVariable ++ "]"] },
    { usage := "    --ast <PATH>"
      purpose := "Path to a pre-parsed AST in JSON, used instead of the built-in parser" },
    { usage := "    --format <FORMAT>", purpose := "Output format", notes := ["[default: json]"]
      values := formatHelp },
    { usage := "    --print-ast", purpose := "Render the AST as a tree (text format)" },
    { usage := "    --print-plan", purpose := "Render the execution plan as a tree (text format)" },
    { usage := "    --ast-depth <AST_DEPTH>", purpose := "Maximum depth when rendering the AST"
      notes := ["[default: 4]"] },
    { usage := "    --no-analyze"
      purpose := "Run plain EXPLAIN instead of EXPLAIN ANALYZE (connected mode)" },
    { usage := "    --log-json", purpose := "Emit logs as JSON lines on stderr" },
    { usage := "-v, --verbose...", purpose := "Increase log verbosity (-v, -vv, -vvv)" },
    { usage := "-h, --help", purpose := form.hint },
    { usage := "-V, --version", purpose := "Print version" }]

/-- A run of spaces. -/
def spaces (count : Nat) : String :=
  String.ofList (List.replicate count ' ')

/-- A text whose lines behind the first are indented. -/
def indented (indent : Nat) (s : String) : String :=
  s.replace "\n" ("\n" ++ spaces indent)

/-- The width of the longest of some texts. -/
def widest (texts : List String) : Nat :=
  (texts.map String.length).foldl max 0

namespace ArgumentHelp

/-- An argument in its column of a given width, and behind it what it is for. -/
def summary (width : Nat) (a : ArgumentHelp) : String :=
  let values := match a.values with
    | [] => []
    | values => ["[possible values: " ++ ", ".intercalate (values.map Prod.fst) ++ "]"]
  "  " ++ a.usage ++ spaces (width + 2 - a.usage.length)
    ++ indented (width + 4) (" ".intercalate (a.purpose :: a.notes ++ values)) ++ "\n"

/-- A value of an argument with its meaning, in a list with a given width. -/
def valueLine (width : Nat) (value : String × String) : String :=
  "\n- " ++ value.1 ++ ":" ++ spaces (width + 1 - value.1.length) ++ value.2

/-- The values of an argument, if they are listed. -/
def valueList (a : ArgumentHelp) : String :=
  match a.values with
  | [] => ""
  | values =>
      "Possible values:" ++ String.join (values.map (valueLine (widest (values.map Prod.fst))))

/-- An argument, and below it what it is for. -/
def full (a : ArgumentHelp) : String :=
  let values := if a.values.isEmpty then "" else "\n\n" ++ spaces 10 ++ indented 10 a.valueList
  let notes := if a.notes.isEmpty then "" else "\n\n" ++ "\n".intercalate a.notes
  "  " ++ a.usage ++ "\n" ++ spaces 10 ++ a.purpose ++ values ++ indented 10 notes ++ "\n"

end ArgumentHelp

/-- What the command does and which arguments it takes. -/
def helpText (form : HelpForm) (environment : Environment) : String :=
  let arguments := argumentHelp form environment
  "Suggest SQL query improvements from the query and its execution plan\n\n"
    ++ "Usage: optiviz [OPTIONS] --sql <PATH>\n\nOptions:\n"
    ++ match form with
      | .summary =>
          String.join (arguments.map (ArgumentHelp.summary (widest (arguments.map (·.usage)))))
      | .full => "\n".intercalate (arguments.map ArgumentHelp.full)

namespace Stop

/-- Arguments that are refused end with an error. -/
def exitCode : Stop → Nat
  | .rejected => 2
  | .version | .help _ => 0

/-- What is printed on standard output. -/
def printed (environment : Environment) : Stop → String
  | .rejected => ""
  | .version => versionText
  | .help form => helpText form environment

/-- What is reported on standard error. -/
def complaint : Stop → String
  | .rejected => "error: invalid arguments\n\nFor more information, try '--help'."
  | .version | .help _ => ""

end Stop

end QueryAdvisor.Command
