import ProposalGate.Command
import ProposalGate.Console.Plain
import ProposalGate.Context

/-!
# The program

The outermost layer: it reads the arguments, the environment and the event, and prints. It opens no
connection and starts no other program, so the service refuses every request and the helper that
knows a credential is missing; everything up to the first request is as it would be otherwise.
-/

namespace ProposalGate.Program

/-- The environment, as far as anyone asks for it. -/
def environment : IO (String → Option String) := do
  let names := CommandLine.variableNames ++ Credential.variableNames
  let values ← names.mapM fun name => do return (name, ← IO.getEnv name)
  return fun name => (values.lookup name).join

/-- What becomes of reading the file with an event. -/
def readEvent (path : String) : IO EventFile := do
  try
    return .bytes (← IO.FS.readBinFile path).toList
  catch
    | .noFileOrDirectory .. => return .missing
    | .permissionDenied .. => return .unreadable "Permission denied (os error 13)"
    | _ => return .directory

/-- Prints a text, without escapes unless a terminal shows it. -/
def print (stream : IO.FS.Stream) (text : String) : IO Unit := do
  stream.putStr (if ← stream.isTty then text else Console.plain text)
  stream.flush

/-- Prints an error and gives the exit code that goes with it. -/
def fail (e : Error) : IO UInt32 := do
  print (← IO.getStderr) (Console.errorText e)
  return 1

/-- Makes a run; the exit code. -/
def perform (c : Context) (dryRun : Bool) : IO UInt32 := do
  let program := Command.program c.number c.options.concurrency dryRun
  let (result, _) := program.run c.service.forge (.start (.start [.refused]))
  print (← IO.getStdout) (Console.render result.lines)
  match result.failure with
  | some e => fail e
  | none => return 0

end ProposalGate.Program

open ProposalGate in
/-- The program. -/
def main (arguments : List String) : IO UInt32 := do
  let environment ← Program.environment
  match CommandLine.read environment arguments with
  | .information =>
    Program.print (← IO.getStdout) CommandLine.usage
    return 0
  | .misuse =>
    Program.print (← IO.getStderr) CommandLine.usage
    return 2
  | .run settings =>
    let event ← match settings.eventPath with
      | some path => Program.readEvent path
      | none => pure .missing
    let demand := Demand.ofSettings settings fun _ => event
    match (Context.prepare environment (fun _ => .missing) demand).result with
    | .error e => Program.fail e
    | .ok context => Program.perform context settings.dryRun
