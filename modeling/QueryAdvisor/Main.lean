import QueryAdvisor.Command.Run
import QueryAdvisor.Command.Usage
import QueryAdvisor.Log.Line

/-!
# The command

Reads the arguments, the environment and the inputs, and prints what the run
has to say.
-/

namespace QueryAdvisor.Command

/-- The variables of the environment that the command looks at. -/
def getEnvironment : IO Environment := do
  return {
    mode := ← IO.getEnv Environment.modeVariable
    connection := ← IO.getEnv Environment.connectionVariable
    logFilter := ← IO.getEnv Environment.logFilterVariable }

/-- What went wrong when a file was read. -/
def ReadError.ofFault : IO.Error → ReadError
  | .noFileOrDirectory .. => .notFound
  | .inappropriateType _ code _ => if code = 21 then .isDirectory else .notDirectory
  | e => .other (toString e)

/-- Bytes as text. -/
def decodeText (bytes : ByteArray) : Answer :=
  match String.fromUTF8? bytes with
  | some text => .ok text
  | none => .error .notText

/-- Reads a source. -/
def readSource : Source → IO Answer
  | .standardInput => do
      let stdin ← IO.getStdin
      decodeText <$> readAll stdin
  | .file path => do
      try
        decodeText <$> IO.FS.readBinFile path
      catch e => return .error (.ofFault e)
where
  /-- All that is left of a stream. -/
  readAll (stream : IO.FS.Stream) : IO ByteArray := do
    let mut bytes := ByteArray.empty
    let mut chunk ← stream.read 65536
    while !chunk.isEmpty do
      bytes := bytes ++ chunk
      chunk ← stream.read 65536
    return bytes

/-- Runs a computation that reads inputs. -/
def Reading.perform {α : Type} : Reading α → IO α
  | .done result => return result
  | .ask source next => do
      let answer ← readSource source
      (next answer).perform

/-- A log line. -/
def logText (isJson : Bool) (l : Log.Line) : String :=
  if isJson then l.toTree.toJson
  else l.level.name ++ " " ++ l.target ++ ": " ++ l.message
    ++ String.join (l.fields.map fun f => " " ++ f.1 ++ "=" ++ f.2.toJson)

/-- Prints a report and gives its exit code. -/
def printReport (o : Options) (environment : Environment) (report : Report) : IO UInt32 := do
  for line in Log.lines o.logSettings environment.logFilter report.events do
    IO.eprintln (logText o.logJson line)
  IO.print report.printed
  unless report.complaint.isEmpty do
    IO.eprintln report.complaint
  return report.exitCode.toUInt32

end QueryAdvisor.Command

open QueryAdvisor.Command in
/-- The command line. -/
def main (arguments : List String) : IO UInt32 := do
  let environment ← getEnvironment
  match Options.ofArguments arguments environment with
  | .error stop =>
      IO.print (stop.printed environment)
      unless stop.complaint.isEmpty do
        IO.eprintln stop.complaint
      return stop.exitCode.toUInt32
  | .ok options =>
      let report ← (run (fun _ => QueryAdvisor.askDatabase) options).perform
      printReport options environment report
