import Switchboard.Bytes
import Switchboard.Failure
import Switchboard.Log
import Switchboard.Net.Backend

/-!
# The network

What the library asks of the network: the addresses of a name, a connection to an endpoint, and the
right to listen at one. Each can be denied, with a reason.

* `Network.endpoints` — the endpoints of a backend.
* `Network.connect` — the first of them that accepts.
* `Network.listenAll` — a listener at each listening address.
-/

namespace Switchboard

/-- What becomes of an attempt to connect. -/
inductive Reach
  /-- The backend accepts, and will send so many bytes before it closes. -/
  | accepted (reply : Bytes)
  | refused (reason : String)
  | timedOut
  deriving DecidableEq, Repr

/-- The network, as far as it answers. -/
structure Network where
  resolve : (host : String) → (port : UInt16) → Except String (List Endpoint)
  reach : Endpoint → Reach
  listen : Endpoint → Except String Unit

namespace Network

/-- The network as far as it was seen: what a name resolved to, and how endpoints behaved. -/
def ofSightings (resolved : Except String (List Endpoint)) (reached : List (Endpoint × Reach))
    (listened : List (Endpoint × Except String Unit)) : Network where
  resolve _ _ := resolved
  reach endpoint := (reached.lookup endpoint).getD .timedOut
  listen endpoint := (listened.lookup endpoint).getD (.error "not tried")

/-- The endpoints of a backend, in the order in which they are tried. -/
def endpoints (net : Network) (backend : Backend) : Except Failure (List Endpoint) :=
  match backend.endpoint? with
  | some endpoint => .ok [endpoint]
  | none =>
    let host := String.ofList backend.bareHost
    let target := host ++ ":" ++ toString backend.port.toNat
    match net.resolve host backend.port with
    | .error reason => .error (.network ("Failed to resolve " ++ target ++ ": " ++ reason))
    | .ok [] => .error (.network (target ++ " resolved to no address"))
    | .ok found => .ok found

theorem endpoints_of_address {net : Network} {backend : Backend} {endpoint : Endpoint}
    (h : backend.endpoint? = some endpoint) : net.endpoints backend = .ok [endpoint] := by
  rw [endpoints, h]

def connectFailure (backend : Backend) (reason : String) : Failure :=
  .network ("Connection to " ++ backend.text ++ " failed: " ++ reason)

/-- The reply of the first endpoint that accepts; else the failure of the last one. -/
def connectTo (net : Network) (backend : Backend) (reason : String) :
    List Endpoint → Except Failure Bytes
  | [] => .error (connectFailure backend reason)
  | endpoint :: rest =>
    match net.reach endpoint with
    | .accepted reply => .ok reply
    | .refused reason => net.connectTo backend reason rest
    | .timedOut => net.connectTo backend "connect timed out" rest

def connect (net : Network) (backend : Backend) : Except Failure Bytes := do
  net.connectTo backend "no address" (← net.endpoints backend)

def attemptRecords (net : Network) : List Endpoint → List Record
  | [] => []
  | endpoint :: rest =>
    let target := String.ofList endpoint.text
    match net.reach endpoint with
    | .accepted _ => []
    | .refused reason =>
      ⟨.debug, "Connection to " ++ target ++ " failed: " ++ reason⟩ :: net.attemptRecords rest
    | .timedOut => ⟨.debug, "Connection to " ++ target ++ " timed out"⟩ :: net.attemptRecords rest

def connectRecords (net : Network) (backend : Backend) : List Record :=
  match net.endpoints backend with
  | .ok found => net.attemptRecords found
  | .error _ => []

/-! ## Listening -/

/-- A listener at the first endpoint that allows one; else the reason of the last one. -/
def listenAny (net : Network) (reason : String) : List Endpoint → Except String Endpoint
  | [] => .error reason
  | endpoint :: rest =>
    match net.listen endpoint with
    | .ok () => .ok endpoint
    | .error reason => net.listenAny reason rest

/-- The endpoint of a listener at a listening address. -/
def listenAt (net : Network) (text : String) : Except String Endpoint :=
  match ListenTarget.parse text with
  | .error error => .error error.message
  | .ok (.endpoint endpoint) => (net.listen endpoint).map fun _ => endpoint
  | .ok (.name host port) => do
    net.listenAny "could not resolve to any address" (← net.resolve host port)

/-- A listener at each listening address; fails with the first that cannot be had. -/
def listenAll (net : Network) (texts : List String) : Except Failure (List Endpoint) :=
  texts.mapM fun text =>
    (net.listenAt text).mapError fun reason =>
      .network ("Failed to bind " ++ text ++ ": " ++ reason)

end Network

end Switchboard
