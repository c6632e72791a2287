import Switchboard.Settings.Environment

/-!
# Options

The command line: options with one letter or a long name, of which some take a value. A value
follows its option as the next argument, or in the same one, behind an equals sign or, for a letter,
at once. Letters without values can be put together. Anything else is a usage error.

* `Options.read?` — the options of a command line; none on a usage error.
* `Options.layer` — the settings that the options give.
-/

namespace Switchboard

inductive Flag
  | configFile
  | listen
  | route
  | timeout
  | onTimeout
  | verbose
  | logLevel
  | listProbes
  deriving DecidableEq, Repr

namespace Flag

def takesValue : Flag → Bool
  | verbose | listProbes => false
  | _ => true

def isRepeatable : Flag → Bool
  | listen | route | verbose => true
  | _ => false

def longNames : List (String × Flag) :=
  [("config-file", configFile), ("listen", listen), ("protocol", route), ("timeout", timeout),
    ("on-timeout", onTimeout), ("verbose", verbose), ("log-level", logLevel),
    ("list-probes", listProbes)]

def letters : List (Char × Flag) :=
  [('F', configFile), ('l', listen), ('p', route), ('t', timeout), ('v', verbose)]

def purpose : Flag → String
  | configFile => "Settings file (JSON); without it portmux.json is read if it is there"
  | listen => "Listening address; may be repeated"
  | route => "Protocol as NAME=HOST:PORT; may be repeated, first one asked first"
  | timeout => "Seconds to wait for a decision"
  | onTimeout => "Protocol for clients that stay silent"
  | verbose => "Trace probes, and twice, dump probed bytes"
  | logLevel => "Log level: error, warn, info, debug or trace"
  | listProbes => "List the built-in probes and exit"

end Flag

/-- An option that was given, with its value if it takes one. -/
abbrev Occurrence := Flag × String

namespace Occurrence

/-- An argument that cannot be the value of the option before it, because it is an option. -/
def isOption : List Char → Bool
  | '-' :: _ :: _ => true
  | _ => false

/-- The options that letters put together stand for, and at the end perhaps one that takes a value,
with the value if it follows at once. -/
def cluster : List Char → Option (List Flag × Option (Flag × Option (List Char)))
  | [] => some ([], none)
  | c :: rest =>
    match Flag.letters.lookup c with
    | none => none
    | some flag =>
      if flag.takesValue then
        let attached := match rest with
          | [] => none
          | '=' :: value => some value
          | value => some value
        some ([], some (flag, attached))
      else (cluster rest).map fun (flags, last) => (flag :: flags, last)

/-- An argument that is an option: the options without values, and perhaps one that takes a value,
with the value if it is part of the argument. -/
def ofArgument? : List Char → Option (List Flag × Option (Flag × Option (List Char)))
  | '-' :: '-' :: long =>
    let (name, attached) := match Text.splitFirst '=' long with
      | some (name, value) => (name, some value)
      | none => (long, none)
    match Flag.longNames.lookup (String.ofList name) with
    | none => none
    | some flag =>
      if flag.takesValue then some ([], some (flag, attached))
      else if attached.isSome then none
      else some ([flag], none)
  | '-' :: c :: letters => cluster (c :: letters)
  | _ => none

/-- The options of a command line, in order. Two dashes end the options, and nothing may follow
them. -/
def all? : List (List Char) → Option (List Occurrence)
  | [] => some []
  | ['-', '-'] :: rest => if rest.isEmpty then some [] else none
  | argument :: rest =>
    match ofArgument? argument with
    | none => none
    | some (flags, last) =>
      -- Only the last letter of a cluster can take a value, here or in the next argument.
      let plain := flags.map (·, "")
      match last with
      | none => (all? rest).map (plain ++ ·)
      | some (flag, some value) => (all? rest).map (plain ++ (flag, String.ofList value) :: ·)
      | some (flag, none) =>
        match rest with
        | value :: rest =>
          if isOption value then none
          else (all? rest).map (plain ++ (flag, String.ofList value) :: ·)
        | [] => none

end Occurrence

/-- The options of a command line. -/
structure Options where
  configFile : Option String
  listen : List String
  /-- Routes in one line each, in probing order. -/
  routes : List String
  timeout : Option UInt64
  onTimeout : Option String
  verbose : UInt8
  logLevel : Option String
  listProbes : Bool
  deriving DecidableEq, Repr

namespace Options

/-- The long names of all options, and what they are for. -/
def summary : String :=
  String.join (Flag.longNames.map fun (name, flag) =>
    "  --" ++ name ++ (if flag.takesValue then " VALUE" else "") ++ "\n      " ++
      flag.purpose ++ "\n")

def values (given : List Occurrence) (flag : Flag) : List String :=
  given.filterMap fun (f, value) => if f = flag then some value else none

def isOverused (given : List Occurrence) (flag : Flag) : Bool :=
  !flag.isRepeatable && 1 < (values given flag).length

/-- The variable that names the settings file. -/
def configVariable : String := "PORTMUX_CONFIG"

/-- The settings file: the one given, or else the one that the environment names. -/
def configPath (given : List Occurrence) (env : Environment) : Option String :=
  ((values given .configFile).head?).or ((env.lookup configVariable).map Utf8.decodeLossy)

/-- The options of a command line; none on a usage error. A settings file must have a name, and
seconds must be a number. -/
def read? (arguments : List String) (env : Environment) : Option Options := do
  let given ← Occurrence.all? (arguments.map String.toList)
  if given.any fun (flag, _) => isOverused given flag then none
  let configFile := configPath given env
  if configFile = some "" then none
  let timeout ← match (values given .timeout).head? with
    | none => some none
    | some text => (Text.natural? (UInt64.size - 1) text.toList).map fun n => some (UInt64.ofNat n)
  return {
    configFile
    listen := values given .listen
    routes := values given .route
    timeout
    onTimeout := (values given .onTimeout).head?
    verbose := UInt8.ofNat (min (values given .verbose).length 255)
    logLevel := (values given .logLevel).head?
    listProbes := !(values given .listProbes).isEmpty }

def initialThreshold (options : Options) : Threshold :=
  if 0 < options.verbose then .upTo (.forVerbosity options.verbose)
  else .ofSetting (options.logLevel.getD Settings.default.logLevel)

/-- The settings that the options give, with the defaults for all others. -/
def layer (options : Options) : Except Settings.Error Settings := do
  let routes ← options.routes.mapM Route.ofSpec
  return { Settings.default with
    listen := if options.listen.isEmpty then Settings.default.listen else options.listen
    routes
    timeout := options.timeout.getD Settings.default.timeout
    onTimeout := options.onTimeout.getD Settings.default.onTimeout
    verbose := options.verbose
    logLevel := options.logLevel.getD Settings.default.logLevel }

end Options

end Switchboard
