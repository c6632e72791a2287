import Switchboard.Dispatch
import Switchboard.Source

/-!
# Connections

A connection whose protocol is not known yet. What is read is kept, so that the backend can be given
all of it later. The connection is bound to an entry once: by a read after which the dispatcher
decides, by a read that fails or finds the end of the stream, or because the client was silent for
too long.

* `Connection.receive` — what the result of a read does to a connection.
* `Connection.classify` — reads once, unless the connection is bound.
* `Connection.timeOut` — gives up waiting.
-/

namespace Switchboard

/-- A client's connection while its protocol is found out. -/
structure Connection where
  /-- All that was read so far. -/
  deferred : Bytes
  /-- The entry that takes the connection, once that is known. -/
  bound : Option Entry

/-- What a connection says when it is asked for its protocol. -/
inductive Status
  /-- Nothing could be read; nothing has changed. -/
  | pending
  | undecided
  | decided (entry : Entry)

namespace Connection

def fresh : Connection := ⟨[], none⟩

/-- The most bytes that one read takes, for a given size of chunks. -/
def readLimit (chunkSize : Nat) : Nat := max chunkSize 1

/-- What the result of a read does to a connection that is not bound. Where no decision is possible
any more, the last entry takes the connection. -/
def receive (d : Dispatcher) (conn : Connection) : ReadResult → Connection
  | .pending => conn
  | .failed _ => { conn with bound := some d.registry.last }
  | .bytes data =>
    let deferred := conn.deferred ++ data
    match d.outcome deferred with
    | .decided entry => ⟨deferred, some entry⟩
    | .undecided => ⟨deferred, if data.isEmpty then some d.registry.last else none⟩

/-- What a connection that is not bound says after a read. -/
def statusAfter (result : ReadResult) (conn : Connection) : Status :=
  match conn.bound with
  | some entry => .decided entry
  | none => if result = .pending then .pending else .undecided

/-- Reads once and tries to find the protocol. A connection that is bound says so and reads
nothing. -/
def classify (d : Dispatcher) (chunkSize : Nat) (conn : Connection) (source : Source) :
    Status × Connection × Source :=
  match conn.bound with
  | some entry => (.decided entry, conn, source)
  | none =>
    let (result, rest) := source.read (readLimit chunkSize)
    let next := conn.receive d result
    (statusAfter result next, next, rest)

/-- Takes the entry for silent clients, unless the connection is bound. -/
def timeOut (d : Dispatcher) (conn : Connection) : Entry × Connection :=
  match conn.bound with
  | some entry => (entry, conn)
  | none => (d.timeoutEntry, { conn with bound := some d.timeoutEntry })

/-! ## The log -/

def receiveRecords (d : Dispatcher) (conn : Connection) : ReadResult → List Record
  | .pending => []
  | .failed reason => [⟨.debug, "Error reading from client while probing: " ++ reason⟩]
  | .bytes data =>
    let deferred := conn.deferred ++ data
    d.records deferred ++
      match d.outcome deferred with
      | .decided _ => []
      | .undecided =>
        if data.isEmpty then
          [⟨.debug, "Client closed after " ++ toString deferred.length ++
            " bytes without a decision, using " ++ d.registry.last.name⟩]
        else []

def classifyRecords (d : Dispatcher) (chunkSize : Nat) (conn : Connection) (source : Source) :
    List Record :=
  match conn.bound with
  | some _ => []
  | none => conn.receiveRecords d (source.read (readLimit chunkSize)).1

end Connection

end Switchboard
