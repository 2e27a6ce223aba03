import QueryAdvisor.Command.Environment
import QueryAdvisor.Log.Settings
import QueryAdvisor.Number.Power
import QueryAdvisor.Plan.Statement
import QueryAdvisor.Report.Text
import QueryAdvisor.Request.Mode
import QueryAdvisor.Text.Letter

/-!
# Options

Arguments are read from left to right. An option takes its value from behind
a `=` or from the next argument, which must not look like an option itself,
and neither options nor switches may be repeated; only `-v` counts. The first
argument that is refused, or asks for help or the version, ends the reading.
The environment gives what the arguments leave open.
-/

namespace QueryAdvisor.Command

/-- How a response is shown. -/
inductive Format where
  | json
  | text
  | table
deriving DecidableEq, Repr

/-- All formats under their names. -/
def Format.all : List (String × Format) :=
  [("json", .json), ("text", .text), ("table", .table)]

/-- What a run is asked to do. -/
structure Options where
  mode : Mode := .manual
  sql : String
  explain : Option String := none
  connection : Option String := none
  ast : Option String := none
  format : Format := .json
  printAst : Bool := false
  printPlan : Bool := false
  astDepth : Nat := 4
  noAnalyze : Bool := false
  logJson : Bool := false
  verbosity : Nat := 0
deriving DecidableEq, Repr

namespace Options

/-- What is shown besides the suggestions. -/
def text (o : Options) : TextOptions :=
  ⟨o.printPlan, o.printAst, o.astDepth⟩

/-- What a database is asked to measure. -/
def explainOptions (o : Options) : ExplainOptions :=
  ⟨!o.noAnalyze, !o.noAnalyze⟩

/-- How events are logged. -/
def logSettings (o : Options) : Log.Settings :=
  { Log.Settings.ofVerbosity o.verbosity with json := o.logJson }

end Options

/-- How much help is asked for. -/
inductive HelpForm where
  /-- One line for each argument. -/
  | summary
  | full
deriving DecidableEq, Repr

/-- What ends the reading of arguments early. -/
inductive Stop where
  /-- An argument is refused, or a required one is missing. -/
  | rejected
  | version
  | help (form : HelpForm)
deriving DecidableEq, Repr

/-- The arguments read so far. -/
structure Draft where
  mode : Option Mode := none
  sql : Option String := none
  explain : Option String := none
  connection : Option String := none
  ast : Option String := none
  format : Option Format := none
  printAst : Bool := false
  printPlan : Bool := false
  astDepth : Option Nat := none
  noAnalyze : Bool := false
  logJson : Bool := false
  verbosity : Nat := 0
deriving DecidableEq, Repr

/-- Options that take a value. -/
inductive Valued where
  | mode
  | sql
  | explain
  | connection
  | ast
  | format
  | astDepth
deriving DecidableEq, Repr

/-- Arguments that take no value. -/
inductive Switch where
  | printAst
  | printPlan
  | noAnalyze
  | logJson
  | verbose
  | help
  | version
deriving DecidableEq, Repr

/-- Options that take a value, under their names. -/
def valuedNames : List (String × Valued) :=
  [("mode", .mode), ("sql", .sql), ("explain", .explain), ("conn", .connection), ("ast", .ast),
    ("format", .format), ("ast-depth", .astDepth)]

/-- Arguments without a value, under their names. -/
def switchNames : List (String × Switch) :=
  [("print-ast", .printAst), ("print-plan", .printPlan), ("no-analyze", .noAnalyze),
    ("log-json", .logJson), ("verbose", .verbose), ("help", .help), ("version", .version)]

/-- A path, which must not be empty. -/
def path? (s : String) : Option String :=
  if s = "" then none else some s

/-- A number of 64 bits, with an optional plus sign. -/
def depth? (s : String) : Option Nat :=
  let digits := match s.toList with
    | '+' :: rest => rest
    | chars => chars
  match Text.natural? digits with
  | some n => if n < twoTo 64 then some n else none
  | none => none

/-- Fills an open place with a value that has been read. -/
def fill {α : Type} (place : Option α) (value : Option α) : Option α :=
  match place with
  | some _ => none
  | none => value

namespace Draft

/-- Takes in the value of an option, unless it does not fit or was given before. -/
def value? (d : Draft) (o : Valued) (s : String) : Option Draft :=
  match o with
  | .mode => (fill d.mode (Mode.ofText s).toOption).map fun m => { d with mode := some m }
  | .sql => (fill d.sql (path? s)).map fun p => { d with sql := some p }
  | .explain => (fill d.explain (path? s)).map fun p => { d with explain := some p }
  | .connection => (fill d.connection (some s)).map fun c => { d with connection := some c }
  | .ast => (fill d.ast (path? s)).map fun p => { d with ast := some p }
  | .format => (fill d.format (Format.all.lookup s)).map fun f => { d with format := some f }
  | .astDepth => (fill d.astDepth (depth? s)).map fun n => { d with astDepth := some n }

/-- Takes in the value of an option, or stops. -/
def value (d : Draft) (o : Valued) (s : String) : Except Stop Draft :=
  match d.value? o s with
  | some d => .ok d
  | none => .error .rejected

/-- Takes in an argument without a value. -/
def switch (d : Draft) : Switch → Except Stop Draft
  | .printAst => if d.printAst then .error .rejected else .ok { d with printAst := true }
  | .printPlan => if d.printPlan then .error .rejected else .ok { d with printPlan := true }
  | .noAnalyze => if d.noAnalyze then .error .rejected else .ok { d with noAnalyze := true }
  | .logJson => if d.logJson then .error .rejected else .ok { d with logJson := true }
  | .verbose => .ok { d with verbosity := d.verbosity + 1 }
  | .help => .error (.help .full)
  | .version => .error .version

/-- Takes in the letters behind a single hyphen. -/
def letters (d : Draft) : List Char → Except Stop Draft
  | [] => .ok d
  | 'v' :: rest => letters { d with verbosity := d.verbosity + 1 } rest
  | 'h' :: _ => .error (.help .summary)
  | 'V' :: _ => .error .version
  | _ => .error .rejected

/-- Whether an argument looks like an option. -/
def isOption (s : String) : Bool :=
  match s.toList with
  | '-' :: _ :: _ => true
  | _ => false

/-- Takes in arguments from left to right. -/
def arguments (d : Draft) : List String → Except Stop Draft
  | [] => .ok d
  | a :: rest =>
      match a.toList with
      | ['-', '-'] => if rest.isEmpty then .ok d else .error .rejected
      | '-' :: '-' :: long =>
          let name := String.ofList (long.takeWhile (· != '='))
          match valuedNames.lookup name, switchNames.lookup name, long.dropWhile (· != '=') with
          | some o, _, '=' :: value =>
              match d.value o (String.ofList value) with
              | .ok d => arguments d rest
              | .error stop => .error stop
          | some o, _, _ =>
              match rest with
              | [] => .error .rejected
              | value :: rest =>
                  if isOption value then .error .rejected
                  else
                    match d.value o value with
                    | .ok d => arguments d rest
                    | .error stop => .error stop
          | none, some s, [] =>
              match d.switch s with
              | .ok d => arguments d rest
              | .error stop => .error stop
          | _, _, _ => .error .rejected
      | '-' :: c :: more =>
          match d.letters (c :: more) with
          | .ok d => arguments d rest
          | .error stop => .error stop
      | _ => .error .rejected

/-- The mode to work in: that of the arguments, else that of the environment. -/
def modeIn (d : Draft) (environment : Environment) : Except Stop Mode :=
  match d.mode, environment.mode with
  | some m, _ => .ok m
  | none, some s => (Mode.ofText s).mapError fun _ => .rejected
  | none, none => .ok .manual

/-- The options, completed from the environment. -/
def options (d : Draft) (environment : Environment) : Except Stop Options := do
  let mode ← d.modeIn environment
  match d.sql with
  | none => .error .rejected
  | some sql =>
      .ok
        { mode, sql
          explain := d.explain
          connection := d.connection.or environment.connection
          ast := d.ast
          format := d.format.getD .json
          printAst := d.printAst
          printPlan := d.printPlan
          astDepth := d.astDepth.getD 4
          noAnalyze := d.noAnalyze
          logJson := d.logJson
          verbosity := d.verbosity }

end Draft

/-- Reads the options from the arguments and the environment. -/
def Options.ofArguments (arguments : List String) (environment : Environment) :
    Except Stop Options := do
  let draft ← ({} : Draft).arguments arguments
  draft.options environment

end QueryAdvisor.Command
