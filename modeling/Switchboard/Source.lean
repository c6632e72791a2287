import Switchboard.Bytes

/-!
# What a client sends

A client's stream as it comes in: pieces of data, failures, and the end. A read takes from the first
of these only, so how the stream was cut decides what a read can give.

* `Source.read` — one read of at most so many bytes.
* `Source.remaining` — the bytes not yet read.
-/

namespace Switchboard

/-- Something that happens on a client's side. -/
inductive Arrival
  | data (bytes : Bytes)
  | failure (reason : String)
  | finish
  deriving DecidableEq, Repr

/-- What is still to come, first thing first. -/
abbrev Source := List Arrival

inductive ReadResult
  /-- Nothing has come yet. -/
  | pending
  /-- Some bytes; none at all mean that the client has finished. -/
  | bytes (data : Bytes)
  | failed (reason : String)
  deriving DecidableEq, Repr

namespace Source

/-- One read of at most `limit` bytes, and what is to come then. The end of a stream stays. -/
def read (limit : Nat) : Source → ReadResult × Source
  | [] => (.pending, [])
  | .data bytes :: rest =>
    let left := bytes.drop limit
    (.bytes (bytes.take limit), if left.isEmpty then rest else .data left :: rest)
  | .failure reason :: rest => (.failed reason, rest)
  | .finish :: rest => (.bytes [], .finish :: rest)

def remaining (source : Source) : Bytes :=
  source.flatMap fun
    | .data bytes => bytes
    | _ => []

end Source

end Switchboard
