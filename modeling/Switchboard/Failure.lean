/-!
# Failures

What can go wrong: with the settings, before the program serves, and then with the network or with
one connection. Each constructor is a cause; `message` is its wording.
-/

namespace Switchboard

namespace Settings

/-- Why settings cannot be loaded or used. -/
inductive Error
  | fileNotFound (path : String)
  | fileUnreadable (path : String) (reason : Option String)
  | malformed (source : String)
  | invalidValue (name reason : String)
  | missingValue (name : String)
  | invalidCombination (reason : String)
  | unknownProbe (protocol probe : String)
  | probeUnavailable (probe : String)
  deriving DecidableEq, Repr

def Error.message : Error → String
  | fileNotFound path => "Configuration file not found: " ++ path
  | fileUnreadable path reason =>
    "Error reading configuration file " ++ path ++ (reason.map (": " ++ ·)).getD ""
  | malformed source => "Error parsing configuration: " ++ source
  | invalidValue name reason => "Invalid value for '" ++ name ++ "': " ++ reason
  | missingValue name => "Missing required configuration value: " ++ name
  | invalidCombination reason => "Invalid combination of configuration options: " ++ reason
  | unknownProbe protocol probe =>
    "Protocol '" ++ protocol ++ "' uses unknown probe '" ++ probe ++ "'"
  | probeUnavailable probe => "Probe '" ++ probe ++ "' is not available in this build"

end Settings

/-- Why serving, or a connection, came to an end. -/
inductive Failure
  | io (reason : String)
  | config (reason : String)
  | network (reason : String)
  | other (reason : String)
  deriving DecidableEq, Repr

namespace Failure

def message : Failure → String
  | io reason => "IO error: " ++ reason
  | config reason => "Configuration error: " ++ reason
  | network reason => "Network error: " ++ reason
  | other reason => "Other error: " ++ reason

def ofSettings (error : Settings.Error) : Failure := config error.message

end Failure

end Switchboard
