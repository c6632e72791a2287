import Std.Internal.UV.DNS
import Std.Internal.UV.TCP
import Std.Internal.UV.Timer
import Switchboard.Net.Address

/-!
# Sockets

Listeners and connections of the machine. Nothing here waits: each operation that takes time is
given what is to be done next, and by what it came to.
-/

namespace Switchboard

open Std.Internal.UV Std.Net

/-! ## Addresses -/

def Ipv4.toMachine (ip : Ipv4) : IPv4Addr := ⟨#v[ip.a, ip.b, ip.c, ip.d]⟩

def Ipv4.ofMachine (ip : IPv4Addr) : Ipv4 :=
  ⟨ip.octets[0], ip.octets[1], ip.octets[2], ip.octets[3]⟩

def Ipv6.toMachine (ip : Ipv6) : IPv6Addr :=
  ⟨⟨ip.groups.toArray, by simp [ip.length_groups]⟩⟩

def Ipv6.ofMachine (ip : IPv6Addr) : Ipv6 := ⟨ip.segments.toList, by simp⟩

def Address.ofMachine : IPAddr → Address
  | .v4 ip => .v4 (.ofMachine ip)
  | .v6 ip => .v6 (.ofMachine ip)

def Endpoint.toMachine (endpoint : Endpoint) : SocketAddress :=
  match endpoint.address with
  | .v4 ip => .v4 ⟨ip.toMachine, endpoint.port⟩
  | .v6 ip => .v6 ⟨ip.toMachine, endpoint.port⟩

def Endpoint.ofMachine (address : SocketAddress) : Endpoint :=
  ⟨.ofMachine address.ipAddr, address.port⟩

/-! ## Time -/

/-- Does something as soon as a promise is kept; it is given nothing if the promise is dropped.
Whatever goes wrong then is shown on the error output. -/
def whenKept {α : Type} (promise : IO.Promise α) (next : Option α → IO Unit) : IO Unit :=
  BaseIO.chainTask promise.result? fun result => do
    if let .error e ← (next result).toBaseIO then
      discard (IO.eprintln (toString e)).toBaseIO

def afterTime (milliseconds : UInt64) (next : IO Unit) : IO Unit := do
  let timer ← Timer.mk milliseconds false
  whenKept (← timer.next) fun _ => next

/-- The outcome of an operation, with the reason if it failed or was given up. -/
def outcomeOf {α : Type} : Option (Except IO.Error α) → Except String α
  | some (.ok value) => .ok value
  | some (.error e) => .error (toString e)
  | none => .error "cancelled"

/-! ## Connections -/

abbrev Socket := TCP.Socket

namespace Socket

/-- One read of at most so many bytes. It gives no byte at the end of the stream, and nothing at all
if it is given up. -/
def read (socket : Socket) (limit : Nat)
    (next : Option (Except String ByteArray) → IO Unit) : IO Unit := do
  whenKept (← socket.recv? (UInt64.ofNat limit)) fun
    | some (.ok data) => next (some (.ok (data.getD .empty)))
    | some (.error e) => next (some (.error (toString e)))
    | none => next none

def write (socket : Socket) (data : ByteArray) (next : Except String Unit → IO Unit) : IO Unit := do
  whenKept (← socket.send #[data]) (next ∘ outcomeOf)

/-- Ends the stream that is written. -/
def finish (socket : Socket) : IO Unit :=
  discard socket.shutdown

/-- Gives up the read that is under way, if one is. -/
def giveUpRead (socket : Socket) : IO Unit := socket.cancelRecv

/-- A connection to an endpoint; none if it takes more than so many milliseconds. -/
def connect (endpoint : Endpoint) (milliseconds : UInt64)
    (next : Option (Except String Socket) → IO Unit) : IO Unit := do
  let result : IO.Promise (Option (Except String Socket)) ← IO.Promise.new
  afterTime milliseconds (result.resolve none)
  let socket ← TCP.Socket.new
  whenKept (← socket.connect endpoint.toMachine) fun outcome =>
    result.resolve (some ((outcomeOf outcome).map fun _ => socket))
  whenKept result fun outcome => next outcome.join

/-! ## Listeners -/

def listen (endpoint : Endpoint) : IO (Except String Socket) := do
  try
    let socket ← TCP.Socket.new
    socket.bind endpoint.toMachine
    socket.listen 1024
    return .ok socket
  catch e => return .error (toString e)

def accept (socket : Socket) (next : Except String Socket → IO Unit) : IO Unit := do
  whenKept (← TCP.Socket.accept socket) (next ∘ outcomeOf)

def localEndpoint (socket : Socket) : IO Endpoint :=
  return .ofMachine (← socket.getSockName)

/-- The endpoint of the other side. -/
def peerEndpoint (socket : Socket) : IO Endpoint :=
  return .ofMachine (← socket.getPeerName)

end Socket

/-! ## Names -/

def resolveName (host : String) (port : UInt16)
    (next : Except String (List Endpoint) → IO Unit) : IO Unit := do
  whenKept (← DNS.getAddrInfo host "" 0) fun outcome =>
    next ((outcomeOf outcome).map fun found => found.toList.map (⟨.ofMachine ·, port⟩))

end Switchboard
