import Switchboard.Net.Address
import Switchboard.Settings.Spec

/-!
# Backends and listening addresses

A backend is a host and a port. A host that is the text of an address is that address; any other is
a name, which only the network can resolve. A listening address is read in the same two ways.
-/

namespace Switchboard

/-- Where connections of a protocol are sent. -/
structure Backend where
  host : String
  port : UInt16
  deriving DecidableEq, Repr

namespace Backend

def text (backend : Backend) : String := backend.host ++ ":" ++ toString backend.port.toNat

def bareHost (backend : Backend) : List Char := Text.strip isBracket backend.host.toList

/-- The endpoint of a backend whose host is an address; none if it is a name. -/
def endpoint? (backend : Backend) : Option Endpoint :=
  (Address.parse? backend.bareHost).map (⟨·, backend.port⟩)

end Backend

inductive ListenTarget
  | endpoint (endpoint : Endpoint)
  /-- A name that the network has to resolve. -/
  | name (host : String) (port : UInt16)
  deriving DecidableEq, Repr

inductive ListenError
  | noPort
  | badPort
  deriving DecidableEq, Repr

def ListenError.message : ListenError → String
  | noPort => "invalid socket address"
  | badPort => "invalid port value"

/-- The target of a listening address: an endpoint, or else a host and, behind the last colon, a
port. -/
def ListenTarget.parse (text : String) : Except ListenError ListenTarget :=
  match Endpoint.parse? text.toList with
  | some found => .ok (.endpoint found)
  | none =>
    match Text.splitLast ':' text.toList with
    | none => .error .noPort
    | some (host, portText) =>
      match Route.port? portText with
      | none => .error .badPort
      | some port =>
        match Address.parse? host with
        | some address => .ok (.endpoint ⟨address, port⟩)
        | none => .ok (.name (String.ofList host) port)

end Switchboard
