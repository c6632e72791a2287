import Switchboard.Json.Value
import Switchboard.Settings.Basic

/-!
# Settings as JSON

The form of settings in a file. A field that is left out has its default; a member that is no field
is refused.

* `Settings.toJson` — the value that is written.
* `Settings.ofJson?` — the settings that a value gives.
-/

namespace Switchboard

namespace Route

/-- The fields of a route, in their declared order. -/
def fieldNames : List String :=
  ["name", "host", "port", "probe", "min_length", "sni_hostnames", "alpn_protocols",
    "regex_patterns", "log_level"]

/-- A second spelling of a field. -/
def fieldAliases : List (String × String) := [("minlength", "min_length")]

/-- A field that is written only if it has a value. -/
def optionalField {α : Type} (name : String) (toJson : α → Json) :
    Option α → List (String × Json)
  | none => []
  | some value => [(name, toJson value)]

/-- A field that is written only if it is not empty. -/
def listField (name : String) (texts : List String) : List (String × Json) :=
  if texts.isEmpty then [] else [(name, .strings texts)]

def toJson (route : Route) : Json :=
  .object ([("name", .string route.name)] ++
    optionalField "host" .string route.host ++
    optionalField "port" (fun port => .nat port.toNat) route.port ++
    optionalField "probe" .string route.probe ++
    optionalField "min_length" (fun n => .nat n.toNat) route.minLength ++
    listField "sni_hostnames" route.hosts ++
    listField "alpn_protocols" route.protocols ++
    listField "regex_patterns" route.patterns ++
    [("log_level", .nat route.logLevel.toNat)])

/-- The route that a value gives. Only the name has no default. -/
def ofJson? (json : Json) : Option Route := do
  let fields ← json.fields? fieldNames fieldAliases
  let name ← (← fields.lookup "name").text?
  let host ← Json.field? fields "host" (Json.nullable? Json.text?) none
  let port ← Json.field? fields "port" (Json.nullable? Json.uint16?) none
  let probe ← Json.field? fields "probe" (Json.nullable? Json.text?) none
  let minLength ← Json.field? fields "min_length" (Json.nullable? Json.uint64?) none
  let hosts ← Json.field? fields "sni_hostnames" Json.texts? []
  let protocols ← Json.field? fields "alpn_protocols" Json.texts? []
  let patterns ← Json.field? fields "regex_patterns" Json.texts? []
  let logLevel ← Json.field? fields "log_level" Json.uint8? defaultLogLevel
  return { name, host, port, probe, minLength, hosts, protocols, patterns, logLevel }

end Route

namespace Settings

def fieldNames : List String :=
  ["listen", "timeout", "on_timeout", "verbose", "log_level", "buffer_size", "connect_timeout",
    "protocols"]

def toJson (settings : Settings) : Json :=
  .object
    [ ("listen", .strings settings.listen),
      ("timeout", .nat settings.timeout.toNat),
      ("on_timeout", .string settings.onTimeout),
      ("verbose", .nat settings.verbose.toNat),
      ("log_level", .string settings.logLevel),
      ("buffer_size", .nat settings.bufferSize.toNat),
      ("connect_timeout", .nat settings.connectTimeout.toNat),
      ("protocols", .array (settings.routes.map Route.toJson)) ]

def routes? (json : Json) : Option (List Route) :=
  json.items?.bind fun items => items.mapM Route.ofJson?

def ofJson? (json : Json) : Option Settings := do
  let fields ← json.fields? fieldNames []
  let listen ← Json.field? fields "listen" Json.texts? default.listen
  let timeout ← Json.field? fields "timeout" Json.uint64? default.timeout
  let onTimeout ← Json.field? fields "on_timeout" Json.text? default.onTimeout
  let verbose ← Json.field? fields "verbose" Json.uint8? default.verbose
  let logLevel ← Json.field? fields "log_level" Json.text? default.logLevel
  let bufferSize ← Json.field? fields "buffer_size" Json.uint64? default.bufferSize
  let connectTimeout ← Json.field? fields "connect_timeout" Json.uint64? default.connectTimeout
  let routes ← Json.field? fields "protocols" routes? default.routes
  return { listen, timeout, onTimeout, verbose, logLevel, bufferSize, connectTimeout, routes }

end Settings

end Switchboard
