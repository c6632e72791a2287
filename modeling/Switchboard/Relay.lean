import Switchboard.Failure
import Switchboard.Log
import Switchboard.Bytes

/-!
# Relaying

Once a connection has its backend, the bytes read so far are replayed to the backend, and then bytes
are copied in both directions at once, each direction in its own lane. A lane reads a piece and
writes it, over and over, until it finds the end of its stream or something fails; then it closes
the side it writes to. The relay is over for its caller as soon as one lane is done, while the other
goes on by itself.

How the lanes take turns and how much each read gives is not for the relay to decide, so a run is
given by its moves.

* `Lane.step?`, `Relay.step?` — one move, if it is possible.
* `Relay.run?` — a run.
* `Relay.settle` — the run in which nothing fails, up to its end.
* `Relay.hear` — a relay that is served on a machine, which reports each round of a lane.
-/

namespace Switchboard

inductive LaneState
  | copying
  /-- The stream has ended, and with it the stream that is written. -/
  | finished
  /-- A read or a write failed. -/
  | broken
  deriving DecidableEq, Repr

/-- One direction of a relay. -/
structure Lane where
  /-- What the sending side has sent, or will send, and what has not been read. -/
  ahead : Bytes
  /-- What has been written for the receiving side. -/
  delivered : Bytes
  state : LaneState
  deriving DecidableEq, Repr

inductive LaneMove
  /-- A read gives so many bytes, and they are written. -/
  | copy (count : Nat)
  /-- A read gives no byte. -/
  | finish
  /-- A read gives so many bytes, of which only the first ones are written; a read that fails gives
  none. -/
  | fail (count written : Nat)
  deriving DecidableEq, Repr

namespace Lane

/-- A lane at its beginning, with what has been written before. -/
def start (written ahead : Bytes) : Lane := ⟨ahead, written, .copying⟩

/-- A move of a lane whose reads take at most `size` bytes; none if the lane cannot do it. A read
into no room at all gives no byte, like one at the end of the stream. -/
def step? (size : Nat) (lane : Lane) (move : LaneMove) : Option Lane :=
  if lane.state ≠ .copying then none
  else
    match move with
    | .copy count =>
      if 1 ≤ count ∧ count ≤ size ∧ count ≤ lane.ahead.length then
        some { lane with
          ahead := lane.ahead.drop count
          delivered := lane.delivered ++ lane.ahead.take count }
      else none
    | .finish =>
      if lane.ahead = [] ∨ size = 0 then some { lane with state := .finished } else none
    | .fail count written =>
      if written ≤ count ∧ count ≤ size ∧ count ≤ lane.ahead.length then
        some
          { ahead := lane.ahead.drop count
            delivered := lane.delivered ++ lane.ahead.take written
            state := .broken }
      else none

def smoothMove (size : Nat) (lane : Lane) : LaneMove :=
  if lane.ahead.isEmpty ∨ size = 0 then .finish else .copy (min size lane.ahead.length)

/-- So many moves for which all goes well. -/
def smoothly (size : Nat) : Nat → Lane → Lane
  | 0, lane => lane
  | n + 1, lane =>
    match lane.step? size (lane.smoothMove size) with
    | some next => smoothly size n next
    | none => lane

/-- The lane at its end, if all goes well. Every move but the last one reads a byte. -/
def settle (size : Nat) (lane : Lane) : Lane := lane.smoothly size (lane.ahead.length + 1)

end Lane

inductive Direction
  | toBackend
  | toClient
  deriving DecidableEq, Repr

def Direction.label : Direction → String
  | toBackend => "Client to target"
  | toClient => "Target to client"

structure Relay where
  toBackend : Lane
  toClient : Lane
  deriving DecidableEq, Repr

namespace Relay

/-- A relay whose prelude has been replayed to the backend. -/
def start (prelude client backend : Bytes) : Relay :=
  ⟨.start prelude client, .start [] backend⟩

def step? (size : Nat) (relay : Relay) : Direction × LaneMove → Option Relay
  | (.toBackend, move) =>
    (relay.toBackend.step? size move).map fun lane => { relay with toBackend := lane }
  | (.toClient, move) =>
    (relay.toClient.step? size move).map fun lane => { relay with toClient := lane }

def run? (size : Nat) (relay : Relay) (moves : List (Direction × LaneMove)) : Option Relay :=
  moves.foldlM (fun r move => r.step? size move) relay

def lane (relay : Relay) : Direction → Lane
  | .toBackend => relay.toBackend
  | .toClient => relay.toClient

/-- The relay is over for its caller. -/
def isOver (relay : Relay) : Bool :=
  relay.toBackend.state != .copying || relay.toClient.state != .copying

def settle (size : Nat) (relay : Relay) : Relay :=
  ⟨relay.toBackend.settle size, relay.toClient.settle size⟩

/-- The relay after the replay. If the backend takes only part of a prelude, or none of it, the
relay fails, and nothing has been read from the client. `capacity` is how much the backend takes;
nothing is written for an empty prelude. -/
def replay (prelude client backend : Bytes) (capacity : Option Nat) : Except Failure Relay :=
  match capacity with
  | none => .ok (start prelude client backend)
  | some room =>
    if room < prelude.length then .error (.io "broken pipe")
    else .ok (start prelude client backend)

/-! ## Reports -/

end Relay

/-- What a machine reports of a round of a lane: of a read, and of the write of what it gave. -/
inductive LaneReport
  | copied (data : Bytes)
  | ended
  | readFailed
  /-- The bytes were read. How many of them were written is not known. -/
  | writeFailed (data : Bytes)
  deriving DecidableEq, Repr

namespace LaneReport

def data : LaneReport → Bytes
  | copied data | writeFailed data => data
  | ended | readFailed => []

def move : LaneReport → LaneMove
  | copied data => .copy data.length
  | ended => .finish
  | readFailed => .fail 0 0
  | writeFailed data => .fail data.length 0

end LaneReport

namespace Lane

/-- The lane without its bytes: what is kept of a lane that is served. -/
def bare (lane : Lane) : Lane := ⟨[], [], lane.state⟩

/-- A served lane after a report. Of what is ahead, it knows what has just been read. -/
def hear (size : Nat) (lane : Lane) (report : LaneReport) : Lane :=
  match { lane with ahead := report.data }.step? size report.move with
  | some next => next.bare
  | none => ⟨[], [], .broken⟩

end Lane

namespace Relay

def bare (relay : Relay) : Relay := ⟨relay.toBackend.bare, relay.toClient.bare⟩

/-- A served relay after a report of one of its lanes. -/
def hear (size : Nat) (relay : Relay) : Direction × LaneReport → Relay
  | (.toBackend, report) => { relay with toBackend := relay.toBackend.hear size report }
  | (.toClient, report) => { relay with toClient := relay.toClient.hear size report }

/-! ## The log -/

def replayRecords (prelude : Bytes) : List Record :=
  if prelude.isEmpty then []
  else [⟨.debug, "Replayed " ++ toString prelude.length ++ " probed bytes to backend"⟩]

def laneRecords (direction : Direction) (total : Nat) : List Record :=
  [⟨.debug, direction.label ++ " transferred " ++ toString total ++ " bytes total"⟩]

def overRecords (direction : Direction) : List Record :=
  [⟨.debug, direction.label ++ " connection closed"⟩]

end Relay

end Switchboard
