import Switchboard.Detector.Kind
import Switchboard.Log

/-!
# Settings

What an operator decides: where to listen, how long to probe, and the table of protocols with their
backends, in probing order. Settings are read once and do not change while the program serves.

* `Route` — one entry of the table.
* `Settings` — all of it; `Settings.default` where nothing is said.
* `Settings.summary` — the settings as the log shows them.
-/

namespace Switchboard

/-- An entry of the protocol table. -/
structure Route where
  /-- Unique in the table, and the name of the detector where no other is chosen. -/
  name : String
  host : Option String
  port : Option UInt16
  probe : Option String
  /-- The detector is not asked before this many bytes have come. -/
  minLength : Option UInt64
  /-- Server names that a TLS detector admits. -/
  hosts : List String
  /-- Application protocols that a TLS detector admits. -/
  protocols : List String
  /-- What a pattern detector searches for. -/
  patterns : List String
  /-- Zero silences the record of each routed connection. -/
  logLevel : UInt8
  deriving DecidableEq, Repr

namespace Route

/-- Routes say of each connection where it goes, unless told not to. -/
def defaultLogLevel : UInt8 := 1

def named (name : String) : Route :=
  ⟨name, none, none, none, none, [], [], [], defaultLogLevel⟩

/-- The probe that stands for the detector named like the route. -/
def builtinProbe : String := "builtin"

/-- The probe of routes that are there to be chosen on a timeout only. -/
def noProbe : String := "none"

/-- The name of the route that takes what no other takes. -/
def catchAllName : String := "anyprot"

def probeName (route : Route) : Option String :=
  match route.probe with
  | none => some route.name
  | some probe =>
    if probe = noProbe then none
    else if probe = builtinProbe then some route.name
    else some probe

def kind? (route : Route) : Option Kind :=
  route.probeName.bind Kind.ofName?

end Route

/-- Everything an operator decides. -/
structure Settings where
  listen : List String
  /-- Seconds of probing before the route for silent clients is taken. -/
  timeout : UInt64
  onTimeout : String
  /-- One logs each verdict, two also dumps the bytes judged. -/
  verbose : UInt8
  logLevel : String
  /-- The most bytes that one read takes. -/
  bufferSize : UInt64
  /-- Seconds allowed to connect to a backend. -/
  connectTimeout : UInt64
  routes : List Route
  deriving DecidableEq, Repr

namespace Settings

/-- What holds where nothing is said. -/
def default : Settings :=
  { listen := ["0.0.0.0:443"]
    timeout := 2
    onTimeout := "ssh"
    verbose := 0
    logLevel := "info"
    bufferSize := 8192
    connectTimeout := 10
    routes := [] }

def route? (settings : Settings) (name : String) : Option Route :=
  settings.routes.find? (·.name = name)

def routeLine (route : Route) : String :=
  let target := match route.host, route.port with
    | some host, some port => host ++ ":" ++ toString port.toNat
    | _, _ => "-"
  "  " ++ route.name ++ " -> " ++ target ++
    " (probe: " ++ route.probe.getD Route.builtinProbe ++ ")"

def summary (settings : Settings) : List Record :=
  ([ "=== Final Configuration ===",
     "  Listen: " ++ ", ".intercalate settings.listen,
     "  Probe timeout: " ++ toString settings.timeout.toNat ++ " seconds (then " ++
       settings.onTimeout ++ ")",
     "  Verbose: " ++ toString settings.verbose.toNat,
     "  Log level: " ++ settings.logLevel,
     "  Buffer size: " ++ toString settings.bufferSize.toNat ++ " bytes",
     "  Connect timeout: " ++ toString settings.connectTimeout.toNat ++ " seconds",
     "Protocols (in probing order):" ] ++
    settings.routes.map routeLine ++
    ["========================="]).map fun text => ⟨.info, text⟩

/-- The level to log at: verbosity needs its records shown, whatever the level set. -/
def threshold (settings : Settings) : Threshold :=
  if 0 < settings.verbose then .upTo (.forVerbosity settings.verbose)
  else .ofSetting settings.logLevel

end Settings

end Switchboard
