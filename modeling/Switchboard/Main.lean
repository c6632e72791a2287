import Std.Internal.UV.Signal
import Switchboard.CommandLine.Program
import Switchboard.Json.Reader
import Switchboard.Pattern.Reader
import Switchboard.Serving

/-!
# The command

Gathers what a run of the program starts from, and carries out what `Program` makes of it.
-/

namespace Switchboard

/-- What a path leads to now. A path that leads to something else than a readable file counts as
leading to a folder. -/
def lookAt (path : String) : IO (Option FileEntry) := do
  try
    return some (.file (← IO.FS.readBinFile path).toList)
  catch
    | .noFileOrDirectory .. => return none
    | _ => return some .folder

def environmentNow : IO Environment := do
  let names := Options.configVariable :: Settings.variableSettings.map Settings.variableName
  let values ← names.mapM fun name => return (name, ← IO.getEnv name)
  return values.filterMap fun (name, value) => value.map (name, Utf8.encode ·)

/-- The files that the program may want to read. -/
def filesNow (arguments : List String) (environment : Environment) : IO Files := do
  let asked := (Options.read? arguments environment).bind (·.configFile)
  let found ← (Settings.usualFile :: asked.toList).mapM fun path => return (path, ← lookAt path)
  return fun path => (found.lookup path).join

def invocationNow (arguments : List String) : IO Invocation := do
  let environment ← environmentNow
  return ⟨arguments, environment, ← filesNow arguments environment⟩

/-- Serves until the process is interrupted. -/
def serveUntilInterrupt (host : Host) : IO UInt32 := do
  match ← Host.listenAll host.settings.listen with
  | .error failure =>
    host.report [Program.failureRecord failure]
    return 1
  | .ok listeners =>
    host.report [Program.readyRecord]
    if listeners.isEmpty then
      host.report [Program.failureRecord Service.stopped]
      return 1
    host.serve listeners
    let interrupt ← Std.Internal.UV.Signal.mk 2 false
    discard (IO.wait (← interrupt.next).result?)
    host.report [Program.interruptRecord]
    return 0

def execute (arguments : List String) : IO UInt32 := do
  let progress := Program.prepare ⟨.standard, Json.read?⟩ (← invocationNow arguments)
  showRecords progress.log
  match progress.stage with
  | .misused =>
    IO.eprint Program.usage
    return Program.misuseCode.toUInt32
  | .finished exitCode output =>
    IO.print output
    return exitCode.toUInt32
  | .ready settings dispatcher =>
    serveUntilInterrupt ⟨settings, dispatcher, progress.threshold⟩

end Switchboard

def main (arguments : List String) : IO UInt32 := Switchboard.execute arguments
