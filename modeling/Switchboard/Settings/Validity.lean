import Switchboard.Settings.Basic
import Switchboard.Failure

/-!
# Validity and warnings

Settings are checked before the program starts to serve. Some faults make them unusable, and the
first of these is reported; others are worth a warning.

* `Settings.validate` — the first fault, if there is one.
* `Settings.warnings` — what is doubtful.
-/

namespace Switchboard

/-- The first error in a list of checks. -/
def firstError {ε : Type} : List (Option ε) → Except ε Unit
  | [] => .ok ()
  | some e :: _ => .error e
  | none :: rest => firstError rest

theorem firstError_eq_ok_iff {ε : Type} {checks : List (Option ε)} :
    firstError checks = .ok () ↔ ∀ c ∈ checks, c = none := by
  induction checks with
  | nil => simp [firstError]
  | cons c rest ih => cases c <;> simp [firstError, ih]

namespace Route

def duplicate (name : String) : Settings.Error :=
  .invalidValue "protocols" ("protocol '" ++ name ++ "' is defined more than once")

/-- The fault of a route's detector: it must be known, and only the detectors that take data may be
given some. -/
def probeFault (route : Route) : Option Settings.Error :=
  match route.probeName, route.kind? with
  | some probe, none => some (.unknownProbe route.name probe)
  | _, kind =>
    if (!route.hosts.isEmpty || !route.protocols.isEmpty) && kind ≠ some .tls then
      some (.invalidCombination
        (route.name ++ ": sni_hostnames and alpn_protocols need the tls probe"))
    else if !route.patterns.isEmpty && kind ≠ some .pattern then
      some (.invalidCombination (route.name ++ ": regex_patterns need the regex probe"))
    else if route.patterns.isEmpty && kind = some .pattern then
      some (.missingValue (route.name ++ ": regex_patterns"))
    else none

/-- The first fault of a route at a place of the table, behind the routes `before`. -/
def fault (before : List Route) (index : Nat) (route : Route) : Option Settings.Error :=
  if route.name.isEmpty then
    some (.invalidValue ("protocols[" ++ toString index ++ "].name")
      "Protocol name must not be empty")
  else if before.any (·.name = route.name) then some (duplicate route.name)
  else if route.host.isNone || route.port.isNone then
    some (.missingValue (route.name ++ ": host and port"))
  else
    -- A route without a known kind is reported before its gate is looked at.
    match route.probeFault with
    | some error => some error
    | none =>
      if route.minLength = some 0 then
        some (.invalidValue (route.name ++ ".min_length") "min_length must be greater than 0")
      else none

def faults (before : List Route) : List Route → List (Option Settings.Error)
  | [] => []
  | route :: rest => route.fault before before.length :: faults (before ++ [route]) rest

end Route

namespace Settings

/-- The fault of a number that must not be zero. -/
def zeroFault (name reason : String) (value : UInt64) : Option Error :=
  if value = 0 then some (.invalidValue name reason) else none

def generalFaults (settings : Settings) : List (Option Error) :=
  [ if settings.listen.isEmpty then some (.missingValue "listen") else none,
    zeroFault "buffer_size" "Buffer size must be greater than 0" settings.bufferSize,
    zeroFault "timeout" "Probe timeout must be greater than 0" settings.timeout,
    zeroFault "connect_timeout" "Connect timeout must be greater than 0"
      settings.connectTimeout ]

def tableFaults (settings : Settings) : List (Option Error) :=
  (if settings.routes.isEmpty then some (.missingValue "protocols") else none) ::
    Route.faults [] settings.routes

/-- Succeeds if the program can be started with these settings; fails with their first fault. -/
def validate (settings : Settings) : Except Error Unit :=
  firstError (settings.generalFaults ++ settings.tableFaults)

/-! ## Warnings -/

def levelWarning (settings : Settings) : List String :=
  if (Level.ofName? settings.logLevel).isSome then []
  else ["Invalid log level '" ++ settings.logLevel ++ "', using default 'info'"]

/-- The highest verbosity that makes a difference. -/
def maxVerbosity : UInt8 := 2

def verbosityWarning (settings : Settings) : List String :=
  if maxVerbosity < settings.verbose then
    ["verbose " ++ toString settings.verbose.toNat ++ " is treated as 2"]
  else []

def timeoutWarning (settings : Settings) : List String :=
  match settings.routes with
  | [] => []
  | first :: _ =>
    if (settings.route? settings.onTimeout).isSome then []
    else ["on_timeout protocol '" ++ settings.onTimeout ++
      "' is not defined, timeouts will use '" ++ first.name ++ "'"]

/-- Warnings about a route, which may be the last one. -/
def routeWarnings (isLast : Bool) (route : Route) : List String :=
  (if route.name = Route.catchAllName && !isLast then
    ["'" ++ Route.catchAllName ++
      "' is not the last protocol, every protocol after it is unreachable"]
  else []) ++
  (if route.kind? = some .pattern && route.minLength.isNone then
    ["regex protocol '" ++ route.name ++
      "' has no min_length; short prefixes are rejected immediately"]
  else [])

def tableWarnings : List Route → List String
  | [] => []
  | route :: rest => routeWarnings rest.isEmpty route ++ tableWarnings rest

/-- What is doubtful about settings. -/
def warnings (settings : Settings) : List String :=
  settings.levelWarning ++ settings.verbosityWarning ++ settings.timeoutWarning ++
    tableWarnings settings.routes

def warningRecords (settings : Settings) : List Record :=
  settings.warnings.map fun text => ⟨.warn, text⟩

end Settings

end Switchboard
