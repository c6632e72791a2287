import Switchboard.Connection
import Switchboard.Network
import Switchboard.Relay

/-!
# Sessions

A client's connection from its first byte to its last: its protocol is found out, its backend is
connected to, what was read is replayed, and then both sides are relayed.

* `Session.probe` — reads until the connection is bound, or patience ends.
* `Session.run` — all of it.
-/

namespace Switchboard

/-- What came of a client's connection. -/
structure Session where
  result : Except Failure Unit
  /-- The entry that the connection was bound to. -/
  entry : Entry
  /-- What the entry's backend was sent, if it was reached. -/
  backendGot : Option Bytes
  clientGot : Bytes

namespace Session

/-- Reads until the connection is bound. `patience` is how many reads the probing deadline leaves
time for; after these, or when nothing more comes, the entry for silent clients takes the
connection. -/
def probe (d : Dispatcher) (chunkSize : Nat) :
    (patience : Nat) → Connection → Source → Entry × Connection × Source
  | 0, conn, source =>
    let (entry, conn) := conn.timeOut d
    (entry, conn, source)
  | patience + 1, conn, source =>
    match conn.classify d chunkSize source with
    | (.decided entry, conn, source) => (entry, conn, source)
    | (.undecided, conn, source) => probe d chunkSize patience conn source
    | (.pending, conn, source) =>
      let (entry, conn) := conn.timeOut d
      (entry, conn, source)

/-- The bytes that reads give up to the end of the stream or to the first failure. -/
def readable : Source → Bytes
  | .data [] :: _ => []
  | .data bytes :: rest => bytes ++ readable rest
  | _ => []

def noBackend (entry : Entry) : Failure := .config ("protocol " ++ entry.name ++ " has no backend")

/-- A client's connection from its first byte to its last, if no lane of its relay fails. -/
def run (d : Dispatcher) (net : Network) (bufferSize patience : Nat) (source : Source) : Session :=
  let (entry, conn, rest) := probe d bufferSize patience .fresh source
  match entry.backend with
  | none => ⟨.error (noBackend entry), entry, none, []⟩
  | some backend =>
    match net.connect backend with
    | .error failure => ⟨.error failure, entry, none, []⟩
    | .ok reply =>
      let relay := (Relay.start conn.deferred (readable rest) reply).settle bufferSize
      ⟨.ok (), entry, some relay.toBackend.delivered, relay.toClient.delivered⟩

/-! ## The log -/

def patienceRecords (client : Endpoint) (conn : Connection) (entry : Entry) : List Record :=
  [⟨.debug, "Probe timeout for " ++ String.ofList client.text ++ " after " ++
    toString conn.deferred.length ++ " bytes, using " ++ entry.name⟩]

def routeRecords (client : Endpoint) (entry : Entry) : List Record :=
  let peer := String.ofList client.text
  match entry.backend with
  | none =>
    [⟨.warn, "Protocol " ++ entry.name ++ " has no backend, closing connection from " ++ peer⟩]
  | some backend =>
    if 0 < entry.logLevel then
      [⟨.info, entry.name ++ ": connection from " ++ peer ++ " to " ++ backend.text⟩]
    else []

end Session

end Switchboard
