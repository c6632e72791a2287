import Switchboard.Bytes

/-!
# Reading within bounds

A cursor is a place in a buffer. Every read either finds all its bytes at hand and moves the cursor
past them, or fails and leaves the cursor where it is; nothing is ever read beyond the end. Parts
that announce their own length are read by a cursor of their own over just that part.

* `Reader.take` — the one primitive read.
* `Reader.vector` — a part behind its length.
* `Reader.items` — items until the buffer is used up.
* `Reader.inside` — reading a part with a cursor of its own.
-/

namespace Switchboard.Tls

structure Cursor where
  buffer : Bytes
  position : Nat
  deriving DecidableEq, Repr

namespace Cursor

def start (buffer : Bytes) : Cursor := ⟨buffer, 0⟩

/-- The bytes not yet passed. -/
def rest (c : Cursor) : Bytes := c.buffer.drop c.position

def atEnd (c : Cursor) : Bool := c.buffer.length ≤ c.position

/-- The next `n` bytes, if there are that many, and the cursor behind them. -/
def take (n : Nat) (c : Cursor) : Option Bytes × Cursor :=
  let piece := c.rest.take n
  if piece.length = n then (some piece, { c with position := c.position + n }) else (none, c)

@[simp] theorem rest_start (buffer : Bytes) : (start buffer).rest = buffer := rfl

theorem length_rest (c : Cursor) : c.rest.length = c.buffer.length - c.position := by
  simp [rest]

theorem take_of_le {n : Nat} {c : Cursor} (h : n ≤ c.rest.length) :
    c.take n = (some (c.rest.take n), { c with position := c.position + n }) := by
  simp [take, List.length_take, Nat.min_eq_left h]

theorem take_of_lt {n : Nat} {c : Cursor} (h : c.rest.length < n) : c.take n = (none, c) := by
  have : ¬ min n c.rest.length = n := by omega
  simp [take, List.length_take, this]

end Cursor

/-- A read: it moves a cursor, and it may fail. The cursor is known after a failure too. -/
abbrev Reader (α : Type) := OptionT (StateM Cursor) α

namespace Reader

def take (n : Nat) : Reader Bytes := OptionT.mk (Cursor.take n)

/-- A number written in `width` bytes. -/
def number (width : Nat) : Reader Nat := do
  return Bytes.bigEndian (← take width)

/-- The bytes of a part behind its length, which is written in `width` bytes. -/
def vector (width : Nat) : Reader Bytes := do
  take (← number width)

def atEnd : Reader Bool := return (← get).atEnd

def remainder : Reader Bytes := do
  take (← get).rest.length

/-- At most `fuel` items, one behind the other, up to the end of the buffer. -/
def itemsWithin {α : Type} (item : Reader α) : Nat → Reader (List α)
  | 0 => do if ← atEnd then return [] else failure
  | fuel + 1 => do
    if ← atEnd then return []
    else
      let x ← item
      return x :: (← itemsWithin item fuel)

/-- Items, one behind the other, up to the end of the buffer. Every item takes a byte at least, so
there are no more of them than bytes left. -/
def items {α : Type} (item : Reader α) : Reader (List α) := do
  itemsWithin item (← get).rest.length

def result? {α : Type} (read : Reader α) (buffer : Bytes) : Option α :=
  (read.run (Cursor.start buffer)).1

/-- Reads a part that has been cut out; the cursor over the whole does not move. -/
def inside {α : Type} (part : Bytes) (read : Reader α) : Reader α :=
  match read.result? part with
  | some x => return x
  | none => failure

end Reader

end Switchboard.Tls
