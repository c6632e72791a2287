import Switchboard.CommandLine.Options
import Switchboard.Service
import Switchboard.Settings.Load

/-!
# The program

What a run of the program does, from the command line to the moment when it serves or gives up. The
surroundings are given: arguments, environment, files and the network. So are the libraries that
know patterns and JSON.

* `Program.prepare` — everything up to the network.
* `Program.run` — a run that is interrupted once it serves.
-/

namespace Switchboard

/-- What a run of the program starts from. -/
structure Invocation where
  arguments : List String
  environment : Environment
  files : Files

structure Libraries where
  patterns : Pattern.Engine
  /-- The value that a text writes; none if the text is no JSON. -/
  json : String → Option Json

inductive Stage
  /-- The command line is not understood. -/
  | misused
  /-- The run is over, with an exit code and perhaps some output. -/
  | finished (exitCode : UInt8) (output : String)
  /-- All is known that serving takes. -/
  | ready (settings : Settings) (dispatcher : Dispatcher)

/-- A run up to a stage: what has been logged and what is shown from now on. -/
structure Progress where
  stage : Stage
  threshold : Threshold
  log : List Record

structure Transcript where
  exitCode : UInt8
  output : String
  log : List Record
  deriving DecidableEq, Repr

namespace Program

def name : String := "portmux"

def version : String := "0.1.0"

def misuseCode : UInt8 := 2

/-- What a user is told after a usage error. -/
def usage : String := "Usage: " ++ name ++ " [OPTIONS]\n\n" ++ Options.summary

/-- The names of all detectors, a line each. -/
def probeList : String :=
  String.join ((Kind.builtinNames ++ [Kind.patternName]).map (· ++ "\n"))

/-- The settings of a run: those loaded, with the options over them. -/
def settings (parse : String → Option Json) (invocation : Invocation) (options : Options) :
    Except Settings.Error Settings := do
  let loaded ← Settings.load parse invocation.files invocation.environment options.configFile
  return loaded.overlay (← options.layer)

def failureRecord (failure : Failure) : Record := ⟨.error, failure.message⟩

/-- A run that ends with a failure, which is logged last. -/
def giveUp (threshold : Threshold) (log : List Record) (failure : Failure) : Progress :=
  ⟨.finished 1 "", threshold, log ++ threshold.keep [failureRecord failure]⟩

def launch (engine : Pattern.Engine) (log : List Record) (settings : Settings) : Progress :=
  let threshold := settings.threshold
  match settings.validate with
  | .error error => giveUp threshold log (.ofSettings error)
  | .ok () =>
    let log := log ++ threshold.keep
      (settings.warningRecords ++ settings.summary ++ Registry.buildRecords engine settings)
    match Dispatcher.ofSettings engine settings with
    | .error error => giveUp threshold log (.ofSettings error)
    | .ok dispatcher => ⟨.ready settings dispatcher, threshold, log⟩

def prepare (libraries : Libraries) (invocation : Invocation) : Progress :=
  match Options.read? invocation.arguments invocation.environment with
  | none => ⟨.misused, .off, []⟩
  | some options =>
    if options.listProbes then ⟨.finished 0 probeList, .off, []⟩
    else
      let threshold := options.initialThreshold
      let log := threshold.keep
        (⟨.info, "Starting " ++ name ++ " v" ++ version⟩ ::
          Settings.loadRecords libraries.json invocation.files invocation.environment
            options.configFile)
      match settings libraries.json invocation options with
      | .error error => giveUp threshold log (.ofSettings error)
      | .ok settings => launch libraries.patterns log settings

def readyRecord : Record := ⟨.info, "Ready, press Ctrl+C to stop"⟩

def interruptRecord : Record := ⟨.info, "Received Ctrl+C, shutting down"⟩

/-- A run that is interrupted once it serves. A service without listeners ends by itself. -/
def run (libraries : Libraries) (net : Network) (invocation : Invocation) : Transcript :=
  let progress := prepare libraries invocation
  let finish (exitCode : UInt8) (records : List Record) : Transcript :=
    ⟨exitCode, "", progress.log ++ progress.threshold.keep records⟩
  match progress.stage with
  | .misused => ⟨misuseCode, "", []⟩
  | .finished exitCode output => ⟨exitCode, output, progress.log⟩
  | .ready settings dispatcher =>
    match Service.listen net dispatcher settings.listen with
    | .error failure => finish 1 [failureRecord failure]
    | .ok service =>
      if service.listeners.isEmpty then finish 1 [readyRecord, failureRecord Service.stopped]
      else finish 0 [readyRecord, interruptRecord]

end Program

end Switchboard
