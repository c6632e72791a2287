import Switchboard.Settings.Spec
import Switchboard.Text.Utf8

/-!
# Settings from the environment

Each setting has a variable. A variable whose value is not UTF-8 counts as unset. Numbers may have
blanks around them; lists are separated by commas, and blank items are left out.
-/

namespace Switchboard

/-- The variables of a process with their values. -/
abbrev Environment := List (String × Bytes)

def Environment.text? (env : Environment) (name : String) : Option String :=
  (env.lookup name).bind Utf8.decode?

namespace Settings

def variableName (setting : String) : String := "PORTMUX_" ++ setting

def variableSettings : List String :=
  ["LISTEN", "TIMEOUT", "ON_TIMEOUT", "VERBOSE", "LOG_LEVEL", "BUFFER_SIZE", "CONNECT_TIMEOUT",
    "PROTOCOLS"]

/-- A number within bounds, blanks around it left out. -/
def number (setting : String) (limit : Nat) (value : String) : Except Error Nat :=
  match Text.natural? limit (Text.trim value.toList) with
  | some n => .ok n
  | none => .error (.invalidValue (variableName setting) ("not a number: " ++ value))

/-- The items of a list that are not blank, without the blanks around them. -/
def items (value : String) : List String :=
  (((Text.pieces ',' value.toList).map Text.trim).filter (!·.isEmpty)).map String.ofList

/-- The setting that a variable gives, or the default if it is unset. -/
def setting {α : Type} (env : Environment) (name : String) (default : α)
    (read : String → Except Error α) : Except Error α :=
  match env.text? (variableName name) with
  | none => .ok default
  | some value => read value

def wide (name : String) (value : String) : Except Error UInt64 :=
  (number name (UInt64.size - 1) value).map UInt64.ofNat

def narrow (name : String) (value : String) : Except Error UInt8 :=
  (number name (UInt8.size - 1) value).map UInt8.ofNat

/-- The settings that the environment gives, with the defaults for all others. The numbers are
looked at first, in this order, and then the routes. -/
def ofEnvironment (env : Environment) : Except Error Settings := do
  let listen ← setting env "LISTEN" default.listen fun value => .ok (items value)
  let timeout ← setting env "TIMEOUT" default.timeout (wide "TIMEOUT")
  let onTimeout ← setting env "ON_TIMEOUT" default.onTimeout .ok
  let verbose ← setting env "VERBOSE" default.verbose (narrow "VERBOSE")
  let logLevel ← setting env "LOG_LEVEL" default.logLevel .ok
  let bufferSize ← setting env "BUFFER_SIZE" default.bufferSize (wide "BUFFER_SIZE")
  let connectTimeout ←
    setting env "CONNECT_TIMEOUT" default.connectTimeout (wide "CONNECT_TIMEOUT")
  let routes ← setting env "PROTOCOLS" default.routes fun value => (items value).mapM Route.ofSpec
  return { listen, timeout, onTimeout, verbose, logLevel, bufferSize, connectTimeout, routes }

end Settings

end Switchboard
