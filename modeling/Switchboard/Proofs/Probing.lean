import Mathlib.Tactic.SplitIfs
import Switchboard.Connection

/-!
# Runs of a connection that is probed

**The state** (`Probing`). A connection, and what has come from its client and was not read yet.

**Moves.** Something arrives from the client, the connection is asked for its protocol, or patience
ends. They come in any order and number, so a read may find nothing, and a question may be asked of
a connection that is bound already.

**Bytes.** What a read takes from the front of the source it appends to the deferred bytes, so the
two put together never change but by what arrives.

Main result: `run_lossless`.
-/

namespace Switchboard

/-! ## Sources -/

/-- The bytes that a read gives; a read that is pending or fails gives none. -/
def ReadResult.data : ReadResult → Bytes
  | .bytes data => data
  | .pending | .failed _ => []

namespace Source

@[simp] theorem remaining_nil : remaining [] = [] := rfl

@[simp] theorem remaining_append (source later : Source) :
    remaining (source ++ later) = remaining source ++ remaining later :=
  List.flatMap_append

@[simp] theorem remaining_data (bytes : Bytes) (rest : Source) :
    remaining (.data bytes :: rest) = bytes ++ remaining rest := rfl

@[simp] theorem remaining_failure (reason : String) (rest : Source) :
    remaining (.failure reason :: rest) = remaining rest := rfl

@[simp] theorem remaining_finish (rest : Source) :
    remaining (.finish :: rest) = remaining rest := rfl

/-- **A read takes its bytes from the front.** -/
theorem data_append_remaining_read (limit : Nat) (source : Source) :
    (source.read limit).1.data ++ remaining (source.read limit).2 = remaining source := by
  match source with
  | [] => rfl
  | .failure reason :: rest => rfl
  | .finish :: rest => rfl
  | .data bytes :: rest =>
    have hcut : bytes.take limit ++ bytes.drop limit = bytes := List.take_append_drop limit bytes
    simp only [read, ReadResult.data, remaining_data]
    split_ifs with hleft
    · rw [List.isEmpty_iff.1 hleft, List.append_nil] at hcut
      rw [hcut]
    · rw [remaining_data, ← List.append_assoc, hcut]

theorem length_data_read_le (limit : Nat) (source : Source) :
    (source.read limit).1.data.length ≤ limit := by
  match source with
  | [] | .failure _ :: _ | .finish :: _ => exact Nat.zero_le _
  | .data bytes :: rest => exact List.length_take_le limit bytes

end Source

/-! ## One call -/

namespace Connection

variable {d : Dispatcher} {chunkSize : Nat} {conn : Connection} {entry : Entry}

theorem deferred_receive (d : Dispatcher) (conn : Connection) (result : ReadResult) :
    (conn.receive d result).deferred = conn.deferred ++ result.data := by
  cases result with
  | pending => exact (List.append_nil _).symm
  | failed reason => exact (List.append_nil _).symm
  | bytes data =>
    simp only [receive, ReadResult.data]
    cases d.outcome (conn.deferred ++ data) <;> rfl

theorem classify_of_bound (h : conn.bound = some entry) (source : Source) :
    conn.classify d chunkSize source = (.decided entry, conn, source) := by
  rw [classify, h]

theorem classify_of_unbound (h : conn.bound = none) (source : Source) :
    conn.classify d chunkSize source =
      (statusAfter (source.read (readLimit chunkSize)).1
          (conn.receive d (source.read (readLimit chunkSize)).1),
        conn.receive d (source.read (readLimit chunkSize)).1,
        (source.read (readLimit chunkSize)).2) := by
  rw [classify, h]

theorem timeOut_of_bound (h : conn.bound = some entry) : conn.timeOut d = (entry, conn) := by
  rw [timeOut, h]

theorem timeOut_of_unbound (h : conn.bound = none) :
    conn.timeOut d = (d.timeoutEntry, { conn with bound := some d.timeoutEntry }) := by
  rw [timeOut, h]

theorem deferred_timeOut (d : Dispatcher) (conn : Connection) :
    (conn.timeOut d).2.deferred = conn.deferred := by
  cases h : conn.bound with
  | none => rw [timeOut_of_unbound h]
  | some entry => rw [timeOut_of_bound h]

end Connection

/-! ## Runs -/

/-- A connection, and what has come from its client and was not read yet. -/
structure Probing where
  conn : Connection
  source : Source

/-- Something that happens while a connection is probed. -/
inductive Move
  /-- Something comes in from the client. -/
  | arrive (arrival : Arrival)
  /-- The connection is asked for its protocol, and may read. -/
  | classify
  /-- Patience ends. -/
  | timeOut
  deriving DecidableEq, Repr

/-- What comes in from the client in the course of some moves. -/
def Move.arrivals (moves : List Move) : Source :=
  moves.filterMap fun
    | .arrive arrival => some arrival
    | .classify | .timeOut => none

namespace Probing

/-- A fresh connection to a client from which some things have come already. -/
def start (source : Source) : Probing := ⟨.fresh, source⟩

/-- What a move does. -/
def step (d : Dispatcher) (chunkSize : Nat) (s : Probing) : Move → Probing
  | .arrive arrival => { s with source := s.source ++ [arrival] }
  | .classify =>
    let (_, conn, source) := s.conn.classify d chunkSize s.source
    ⟨conn, source⟩
  | .timeOut => { s with conn := (s.conn.timeOut d).2 }

def run (d : Dispatcher) (chunkSize : Nat) (s : Probing) (moves : List Move) : Probing :=
  moves.foldl (step d chunkSize) s

variable {d : Dispatcher} {chunkSize : Nat} {s : Probing} {entry : Entry}

@[simp] theorem run_nil (d : Dispatcher) (chunkSize : Nat) (s : Probing) :
    run d chunkSize s [] = s := rfl

theorem run_append (d : Dispatcher) (chunkSize : Nat) (s : Probing) (moves more : List Move) :
    run d chunkSize s (moves ++ more) = run d chunkSize (run d chunkSize s moves) more :=
  List.foldl_append

theorem run_concat (d : Dispatcher) (chunkSize : Nat) (s : Probing) (moves : List Move)
    (move : Move) :
    run d chunkSize s (moves ++ [move]) = step d chunkSize (run d chunkSize s moves) move :=
  run_append d chunkSize s moves [move]

/-- What was read and what is still to be read, in the order in which the client sent it. -/
def bytes (s : Probing) : Bytes := s.conn.deferred ++ s.source.remaining

theorem step_classify_of_bound (h : s.conn.bound = some entry) :
    step d chunkSize s .classify = s := by
  rw [step, Connection.classify_of_bound h]

theorem step_classify_of_unbound (h : s.conn.bound = none) :
    step d chunkSize s .classify =
      ⟨s.conn.receive d (s.source.read (Connection.readLimit chunkSize)).1,
        (s.source.read (Connection.readLimit chunkSize)).2⟩ := by
  rw [step, Connection.classify_of_unbound h]

theorem step_timeOut_of_bound (h : s.conn.bound = some entry) :
    step d chunkSize s .timeOut = s := by
  rw [step, Connection.timeOut_of_bound h]

/-- A question moves some bytes, and no more than a read may take, from the source to the deferred
ones. -/
theorem step_classify_takes (d : Dispatcher) (chunkSize : Nat) (s : Probing) :
    ∃ taken : Bytes, taken.length ≤ Connection.readLimit chunkSize ∧
      (step d chunkSize s .classify).conn.deferred = s.conn.deferred ++ taken ∧
      s.source.remaining = taken ++ (step d chunkSize s .classify).source.remaining := by
  cases h : s.conn.bound with
  | some entry =>
    refine ⟨[], Nat.zero_le _, ?_, ?_⟩
    · rw [step_classify_of_bound h, List.append_nil]
    · rw [step_classify_of_bound h, List.nil_append]
  | none =>
    refine ⟨_, Source.length_data_read_le (Connection.readLimit chunkSize) s.source, ?_, ?_⟩
    · rw [step_classify_of_unbound h]
      exact Connection.deferred_receive d s.conn _
    · rw [step_classify_of_unbound h]
      exact (Source.data_append_remaining_read _ s.source).symm

theorem bytes_step_classify (d : Dispatcher) (chunkSize : Nat) (s : Probing) :
    (step d chunkSize s .classify).bytes = s.bytes := by
  obtain ⟨taken, -, hdeferred, hsource⟩ := step_classify_takes d chunkSize s
  rw [bytes, hdeferred, List.append_assoc, ← hsource, bytes]

theorem bytes_step_timeOut (d : Dispatcher) (chunkSize : Nat) (s : Probing) :
    (step d chunkSize s .timeOut).bytes = s.bytes := by
  rw [bytes, step, Connection.deferred_timeOut, bytes]

/-- **Moves keep the bytes together.** They change only by what arrives, which comes last. -/
theorem bytes_run (d : Dispatcher) (chunkSize : Nat) (s : Probing) (moves : List Move) :
    (run d chunkSize s moves).bytes = s.bytes ++ (Move.arrivals moves).remaining := by
  induction moves generalizing s with
  | nil => exact (List.append_nil _).symm
  | cons move moves ih =>
    rw [run, List.foldl_cons, ← run, ih]
    cases move with
    | arrive arrival =>
      have hs : (step d chunkSize s (.arrive arrival)).bytes =
          s.bytes ++ Source.remaining [arrival] := by
        simp only [bytes, step, Source.remaining_append, List.append_assoc]
      have ha : (Move.arrivals (.arrive arrival :: moves)).remaining =
          Source.remaining [arrival] ++ (Move.arrivals moves).remaining :=
        Source.remaining_append [arrival] (Move.arrivals moves)
      rw [hs, ha, List.append_assoc]
    | classify => rw [bytes_step_classify]; rfl
    | timeOut => rw [bytes_step_timeOut]; rfl

/-! ## What the client sent -/

/-- A state of a run in which the client has sent some bytes so far, and what the next call does in
it. -/
structure Lossless (d : Dispatcher) (chunkSize : Nat) (sent : Bytes) (s : Probing) : Prop where
  /-- What was read and what was not is what was sent. -/
  conserved : s.conn.deferred ++ s.source.remaining = sent
  /-- A question takes bytes from the front of the source, never more than a chunk. -/
  takes : ∃ taken : Bytes, taken.length ≤ max chunkSize 1 ∧
    (step d chunkSize s .classify).conn.deferred = s.conn.deferred ++ taken ∧
    s.source.remaining = taken ++ (step d chunkSize s .classify).source.remaining
  /-- Where data lies ready and nothing is bound, it takes as much as it may. -/
  reads : s.conn.bound = none → ∀ data rest, s.source = .data data :: rest →
    (step d chunkSize s .classify).conn.deferred = s.conn.deferred ++ data.take (max chunkSize 1)
  pending : (s.source.read (max chunkSize 1)).1 = .pending → step d chunkSize s .classify = s
  failed : ∀ reason, (s.source.read (max chunkSize 1)).1 = .failed reason →
    (step d chunkSize s .classify).conn.deferred = s.conn.deferred
  silence : (step d chunkSize s .timeOut).conn.deferred = s.conn.deferred ∧
    (step d chunkSize s .timeOut).source = s.source
  bound : s.conn.bound ≠ none →
    step d chunkSize s .classify = s ∧ step d chunkSize s .timeOut = s

theorem step_classify_pending (h : (s.source.read (Connection.readLimit chunkSize)).1 = .pending) :
    step d chunkSize s .classify = s := by
  cases hb : s.conn.bound with
  | some entry => exact step_classify_of_bound hb
  | none =>
    have hs : s.source = [] := by
      match hsource : s.source with
      | [] => rfl
      | .data _ :: _ | .failure _ :: _ | .finish :: _ => rw [hsource] at h; cases h
    rw [step_classify_of_unbound hb, hs]
    cases s
    cases hs
    rfl

theorem deferred_step_classify_failed {reason : String}
    (h : (s.source.read (Connection.readLimit chunkSize)).1 = .failed reason) :
    (step d chunkSize s .classify).conn.deferred = s.conn.deferred := by
  cases hb : s.conn.bound with
  | some entry => rw [step_classify_of_bound hb]
  | none => rw [step_classify_of_unbound hb, h]; rfl

/-- **Probing loses nothing.** At every point of every run, what was read followed by what was not
is what the client sent, and each call keeps to its part. -/
theorem run_lossless (d : Dispatcher) (chunkSize : Nat) (source : Source) (moves : List Move) :
    Lossless d chunkSize (source ++ Move.arrivals moves).remaining
      (run d chunkSize (start source) moves) where
  conserved := by
    rw [Source.remaining_append]
    exact bytes_run d chunkSize (start source) moves
  takes := step_classify_takes d chunkSize _
  reads := by
    intro hb data rest hs
    rw [step_classify_of_unbound hb, Connection.deferred_receive, hs]
    rfl
  pending := step_classify_pending
  failed := fun _ => deferred_step_classify_failed
  silence := ⟨Connection.deferred_timeOut d _, rfl⟩
  bound := by
    intro hb
    obtain ⟨entry, hentry⟩ := Option.ne_none_iff_exists'.1 hb
    exact ⟨step_classify_of_bound hentry, step_timeOut_of_bound hentry⟩

end Probing

end Switchboard
