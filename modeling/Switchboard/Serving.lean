import Switchboard.Net.Socket
import Switchboard.Service

/-!
# Serving on the machine's network

Sessions on real sockets. Each step takes place when the machine reports something: a connection,
the result of a read, the end of the probing deadline. What a report means is decided by
`Connection`, `Network` and `Relay`; here it is only carried out.
-/

namespace Switchboard

/-- What all sessions of a service share. -/
structure Host where
  settings : Settings
  dispatcher : Dispatcher
  threshold : Threshold

/-- Shows records on the error output, a line each unless a text has more. -/
def showRecords (records : List Record) : IO Unit :=
  records.forM fun r => IO.eprintln ("[" ++ r.level.label ++ "] " ++ r.text)

namespace Host

def report (host : Host) (records : List Record) : IO Unit :=
  showRecords (host.threshold.keep records)

/-- Seconds as milliseconds, as far as these can be told. -/
def milliseconds (seconds : UInt64) : UInt64 :=
  UInt64.ofNat (min (1000 * seconds.toNat) (UInt64.size - 1))

/-! ## Relaying -/

/-- Serves a lane of a relay: each round is reported to the relay, which says whether there is
another one. A read that was given up is done again. -/
partial def carry (host : Host) (relay : IO.Ref Relay) (direction : Direction)
    (source sink : Socket) (total : Nat) : IO Unit :=
  let size := host.settings.bufferSize.toNat
  let hear (report : LaneReport) : IO Unit := do
    let total := total + report.data.length
    -- The other direction runs at the same time; the relay says which of the two ended first.
    let (wasOver, next) ← relay.modifyGet fun before =>
      let next := before.hear size (direction, report)
      ((before.isOver, next), next)
    if (next.lane direction).state = .copying then
      host.carry relay direction source sink total
    else
      sink.finish
      host.report (Relay.laneRecords direction total)
      unless wasOver do host.report (Relay.overRecords direction)
  source.read size fun
    | none => host.carry relay direction source sink total
    | some (.error _) => hear .readFailed
    | some (.ok data) =>
      let bytes := data.toList
      if bytes.isEmpty then hear .ended
      else
        sink.write data fun
          | .ok () => hear (.copied bytes)
          | .error _ => hear (.writeFailed bytes)

def relay (host : Host) (client backend : Socket) : IO Unit := do
  let relay ← IO.mkRef (Relay.start [] [] [])
  host.carry relay .toBackend client backend 0
  host.carry relay .toClient backend client 0

/-! ## Sessions -/

def conclude (host : Host) (result : Except Failure Unit) : IO Unit :=
  host.report (Service.endedRecords result)

/-- Replays what was read to the backend, and relays. -/
def replay (host : Host) (deferred : Bytes) (client backend : Socket) : IO Unit :=
  if deferred.isEmpty then host.relay client backend
  else
    backend.write (ByteArray.mk deferred.toArray) fun
      | .error reason => host.conclude (.error (.io reason))
      | .ok () => do
        host.report (Relay.replayRecords deferred)
        host.relay client backend

/-- Connects to endpoints in order until one accepts. What is next is given how each behaved, and
the connection if there is one. -/
def tryAll (limit : UInt64) (tried : List (Endpoint × Reach))
    (next : List (Endpoint × Reach) → Option Socket → IO Unit) : List Endpoint → IO Unit
  | [] => next tried none
  | endpoint :: rest =>
    Socket.connect endpoint limit fun
      | some (.ok socket) => next (tried ++ [(endpoint, .accepted [])]) (some socket)
      | some (.error reason) => tryAll limit (tried ++ [(endpoint, .refused reason)]) next rest
      | none => tryAll limit (tried ++ [(endpoint, .timedOut)]) next rest

/-- Takes a bound connection to its backend. -/
def route (host : Host) (client : Socket) (clientAt : Endpoint) (entry : Entry)
    (conn : Connection) : IO Unit := do
  host.report (Session.routeRecords clientAt entry)
  match entry.backend with
  | none => host.conclude (.error (Session.noBackend entry))
  | some backend =>
    let connectTo (resolved : Except String (List Endpoint)) : IO Unit :=
      tryAll (milliseconds host.settings.connectTimeout) []
        (fun tried socket => do
          let net := Network.ofSightings resolved tried []
          host.report (net.connectRecords backend)
          match net.connect backend, socket with
          | .error failure, _ => host.conclude (.error failure)
          | .ok _, some socket => host.replay conn.deferred client socket
          | .ok _, none => pure ())
        (resolved.toOption.getD [])
    -- An address needs no resolver.
    match backend.endpoint? with
    | some endpoint => connectTo (.ok [endpoint])
    | none => resolveName (String.ofList backend.bareHost) backend.port connectTo

def expire (host : Host) (client : Socket) (clientAt : Endpoint) (conn : Connection) : IO Unit := do
  let (entry, bound) := conn.timeOut host.dispatcher
  host.report (Session.patienceRecords clientAt conn entry)
  host.route client clientAt entry bound

/-- Reads until the connection is bound or the deadline has passed. -/
partial def probe (host : Host) (client : Socket) (clientAt : Endpoint) (hasExpired : IO.Ref Bool)
    (conn : Connection) : IO Unit := do
  let d := host.dispatcher
  client.read (Connection.readLimit host.settings.bufferSize.toNat) fun outcome => do
    let result : ReadResult := match outcome with
      | none => .pending
      | some (.ok data) => .bytes data.toList
      | some (.error reason) => .failed reason
    host.report (conn.receiveRecords d result)
    let conn := conn.receive d result
    match Connection.statusAfter result conn with
    | .decided entry => host.route client clientAt entry conn
    | _ =>
      -- The deadline may pass during a read; bytes that came first are still asked about.
      if ← hasExpired.get then host.expire client clientAt conn
      else host.probe client clientAt hasExpired conn

def session (host : Host) (client : Socket) (clientAt : Endpoint) : IO Unit := do
  let hasExpired ← IO.mkRef false
  afterTime (milliseconds host.settings.timeout) do
    hasExpired.set true
    client.giveUpRead
  host.probe client clientAt hasExpired .fresh

/-- Gives each connection of a listener a session of its own. -/
partial def acceptAll (host : Host) (listener : Socket) (listenerAt : Endpoint) : IO Unit :=
  listener.accept fun outcome => do
    host.acceptAll listener listenerAt
    match outcome with
    | .error reason => host.report (Service.refusedRecords listenerAt reason)
    | .ok client =>
      let clientAt ← client.peerEndpoint
      host.report (Service.acceptedRecords clientAt listenerAt)
      host.session client clientAt

/-! ## Listening -/

/-- Listens at the first endpoint that allows it. Given how each behaved, and the listener. -/
def listenFirst (tried : List (Endpoint × Except String Unit)) :
    List Endpoint → IO (List (Endpoint × Except String Unit) × Option Socket)
  | [] => return (tried, none)
  | endpoint :: rest => do
    match ← Socket.listen endpoint with
    | .ok socket => return (tried ++ [(endpoint, .ok ())], some socket)
    | .error reason => listenFirst (tried ++ [(endpoint, .error reason)]) rest

def listenEndpoints (address : String) : IO (Except String (List Endpoint)) := do
  match ListenTarget.parse address with
  | .error _ => return .ok []
  | .ok (.endpoint endpoint) => return .ok [endpoint]
  | .ok (.name name port) =>
    let found : IO.Promise (Except String (List Endpoint)) ← IO.Promise.new
    resolveName name port (found.resolve ·)
    return (← IO.wait found.result?).getD (.ok [])

/-- Listeners at all listening addresses; fails with the first that cannot be had. -/
def listenAll : List String → IO (Except Failure (List Socket))
  | [] => return .ok []
  | address :: rest => do
    let resolved ← listenEndpoints address
    let (tried, socket) ← listenFirst [] (resolved.toOption.getD [])
    match (Network.ofSightings resolved [] tried).listenAll [address] with
    | .error failure => return .error failure
    | .ok _ => return (← listenAll rest).map (socket.toList ++ ·)

def serve (host : Host) (listeners : List Socket) : IO Unit :=
  listeners.forM fun listener => do
    let listenerAt ← listener.localEndpoint
    host.report (Service.listeningRecords listenerAt)
    host.acceptAll listener listenerAt

end Host

end Switchboard
