import Mathlib.Data.List.Induction
import Mathlib.Data.List.Nodup
import Switchboard.Proofs.Dispatch
import Switchboard.Proofs.Probing

/-!
# When a connection is bound

**The events** (`Binds`). A connection that is not bound is bound by a read after which the
dispatcher decides, by the end of the stream, by a read that fails, or by the end of patience. Each
event says which entry it is bound to; the relation knows of the dispatcher and of what is read, and
of nothing else that a connection does.

**The step.** A move leaves a bound connection alone, and binds an unbound one to an entry exactly
if it is an event that calls for it (`bound_step_eq_some`). So a run is bound by the first event in
it, and by no other.

**Binding once.** A second driver (`classifyOnce`, `timeOutOnce`) refuses to bind a connection that
is bound. It never refuses, and does the same.

Main result: `run_binding`.
-/

namespace Switchboard

/-! ## The registry's answers by name -/

namespace Registry

theorem eq_of_name_eq {r : Registry} {entry other : Entry} (h : entry ∈ r.entries)
    (hother : other ∈ r.entries) (hname : entry.name = other.name) : entry = other :=
  List.inj_on_of_nodup_map r.nodup h hother hname

theorem get?_eq_none {r : Registry} {name : String} :
    r.get? name = none ↔ ∀ entry ∈ r.entries, entry.name ≠ name := by
  simp [get?]

theorem mem_of_get? {r : Registry} {name : String} {entry : Entry} (h : r.get? name = some entry) :
    entry ∈ r.entries ∧ entry.name = name :=
  ⟨List.mem_of_find?_eq_some h, by simpa using List.find?_some h⟩

theorem get?_of_mem {r : Registry} {entry : Entry} (h : entry ∈ r.entries) :
    r.get? entry.name = some entry := by
  cases hget : r.get? entry.name with
  | none => exact absurd rfl (get?_eq_none.1 hget entry h)
  | some other =>
    obtain ⟨hother, hname⟩ := mem_of_get? hget
    rw [eq_of_name_eq hother h hname]

end Registry

theorem Dispatcher.mem_of_outcome {d : Dispatcher} {data : Bytes} {entry : Entry}
    (h : d.outcome data = .decided entry) : entry ∈ d.registry.entries := by
  rcases outcome_eq_decided.1 h with hfirst | ⟨-, -, rfl⟩
  · exact hfirst.mem.1.1
  · exact d.registry.last_mem

/-! ## Binding once -/

namespace Connection

/-- Binds a connection, which must not be bound yet. -/
def bindOnce (conn : Connection) (entry : Entry) : Option Connection :=
  match conn.bound with
  | some _ => none
  | none => some { conn with bound := some entry }

/-- What the result of a read does to a connection, bound by `bindOnce`. -/
def receiveOnce (d : Dispatcher) (conn : Connection) : ReadResult → Option Connection
  | .pending => some conn
  | .failed _ => conn.bindOnce d.registry.last
  | .bytes data =>
    let conn := { conn with deferred := conn.deferred ++ data }
    match d.outcome conn.deferred with
    | .decided entry => conn.bindOnce entry
    | .undecided => if data.isEmpty then conn.bindOnce d.registry.last else some conn

/-- `classify`, but refusing to bind a connection that is bound. -/
def classifyOnce (d : Dispatcher) (chunkSize : Nat) (conn : Connection) (source : Source) :
    Option (Status × Connection × Source) :=
  match conn.bound with
  | some entry => some (.decided entry, conn, source)
  | none =>
    let (result, rest) := source.read (readLimit chunkSize)
    (conn.receiveOnce d result).map fun next => (statusAfter result next, next, rest)

/-- `timeOut`, but refusing to bind a connection that is bound. -/
def timeOutOnce (d : Dispatcher) (conn : Connection) : Option (Entry × Connection) :=
  match conn.bound with
  | some entry => some (entry, conn)
  | none => (conn.bindOnce d.timeoutEntry).map (d.timeoutEntry, ·)

variable {d : Dispatcher} {chunkSize : Nat} {conn : Connection}

theorem receiveOnce_of_unbound (h : conn.bound = none) (result : ReadResult) :
    conn.receiveOnce d result = some (conn.receive d result) := by
  cases result with
  | pending => rfl
  | failed reason => simp [receiveOnce, bindOnce, receive, h]
  | bytes data =>
    simp only [receiveOnce, receive, bindOnce, h]
    cases d.outcome (conn.deferred ++ data) with
    | decided entry => rfl
    | undecided => cases data <;> rfl

theorem classifyOnce_eq (d : Dispatcher) (chunkSize : Nat) (conn : Connection) (source : Source) :
    conn.classifyOnce d chunkSize source = some (conn.classify d chunkSize source) := by
  cases h : conn.bound with
  | some entry => rw [classifyOnce, h, classify_of_bound h]
  | none =>
    rw [classifyOnce, h, classify_of_unbound h]
    simp only [receiveOnce_of_unbound h, Option.map_some]

theorem timeOutOnce_eq (d : Dispatcher) (conn : Connection) :
    conn.timeOutOnce d = some (conn.timeOut d) := by
  cases h : conn.bound with
  | some entry => rw [timeOutOnce, h, timeOut_of_bound h]
  | none => simp only [timeOutOnce, h, bindOnce, Option.map_some, timeOut_of_unbound h]

end Connection

/-! ## Events -/

namespace Probing

/-- In a state, a move is an event that calls for an entry. -/
inductive Binds (d : Dispatcher) (chunkSize : Nat) (s : Probing) : Move → Entry → Prop
  /-- Bytes were read, and with them the dispatcher decides. -/
  | data {data : Bytes} {rest : Source} {entry : Entry} :
      s.source.read (max chunkSize 1) = (.bytes data, rest) → data ≠ [] →
      d.outcome (s.conn.deferred ++ data) = .decided entry → Binds d chunkSize s .classify entry
  /-- The stream ends, and the dispatcher decides. -/
  | finish {rest : Source} {entry : Entry} :
      s.source.read (max chunkSize 1) = (.bytes [], rest) →
      d.outcome s.conn.deferred = .decided entry → Binds d chunkSize s .classify entry
  /-- The stream ends while the question is open. -/
  | unfinished {rest : Source} :
      s.source.read (max chunkSize 1) = (.bytes [], rest) →
      d.outcome s.conn.deferred = .undecided → Binds d chunkSize s .classify d.registry.last
  | failure {reason : String} {rest : Source} :
      s.source.read (max chunkSize 1) = (.failed reason, rest) →
      Binds d chunkSize s .classify d.registry.last
  /-- Patience ends, and an entry is named for that. -/
  | silence {entry : Entry} :
      entry ∈ d.registry.entries → entry.name = d.onTimeout → Binds d chunkSize s .timeOut entry
  /-- Patience ends, and no entry has the name for that. -/
  | nameless :
      (∀ entry ∈ d.registry.entries, entry.name ≠ d.onTimeout) →
      Binds d chunkSize s .timeOut d.registry.first

/-- No move of a run is an event. -/
def Quiet (d : Dispatcher) (chunkSize : Nat) (s : Probing) (moves : List Move) : Prop :=
  ∀ before move, before ++ [move] <+: moves →
    ∀ entry, ¬ Binds d chunkSize (run d chunkSize s before) move entry

/-- The first event of a run calls for an entry. -/
def FirstEvent (d : Dispatcher) (chunkSize : Nat) (s : Probing) (moves : List Move)
    (entry : Entry) : Prop :=
  ∃ before move, before ++ [move] <+: moves ∧ Quiet d chunkSize s before ∧
    Binds d chunkSize (run d chunkSize s before) move entry

variable {d : Dispatcher} {chunkSize : Nat} {s : Probing} {move : Move} {entry : Entry}

theorem bound_receive {conn : Connection} (h : conn.bound = none) (d : Dispatcher)
    (result : ReadResult) :
    (conn.receive d result).bound =
      match result with
      | .pending => none
      | .failed _ => some d.registry.last
      | .bytes data =>
        match d.outcome (conn.deferred ++ data) with
        | .decided entry => some entry
        | .undecided => if data.isEmpty then some d.registry.last else none := by
  cases result with
  | pending => exact h
  | failed reason => rfl
  | bytes data =>
    simp only [Connection.receive]
    cases d.outcome (conn.deferred ++ data) <;> rfl

theorem binds_classify_iff :
    Binds d chunkSize s .classify entry ↔
      match (s.source.read (max chunkSize 1)).1 with
      | .pending => False
      | .failed _ => d.registry.last = entry
      | .bytes data =>
        match d.outcome (s.conn.deferred ++ data) with
        | .decided decided => decided = entry
        | .undecided => data = [] ∧ d.registry.last = entry := by
  constructor
  · intro h
    cases h with
    | data hread hne hout => rw [hread]; simp only [hout]
    | finish hread hout => rw [hread]; simp only [List.append_nil, hout]
    | unfinished hread hout => rw [hread]; simp only [List.append_nil, hout, and_self]
    | failure hread => rw [hread]
  · intro h
    rcases hread : s.source.read (max chunkSize 1) with ⟨result, rest⟩
    rw [hread] at h
    cases result with
    | pending => exact h.elim
    | failed reason => exact h ▸ .failure hread
    | bytes data =>
      cases hout : d.outcome (s.conn.deferred ++ data) with
      | decided decided =>
        simp only [hout] at h
        subst h
        -- An empty read is the end of the stream, which binds whatever the table says.
        by_cases hd : data = []
        · subst hd
          rw [List.append_nil] at hout
          exact .finish hread hout
        · exact .data hread hd hout
      | undecided =>
        simp only [hout] at h
        obtain ⟨rfl, rfl⟩ := h
        rw [List.append_nil] at hout
        exact .unfinished hread hout

theorem binds_timeOut_iff : Binds d chunkSize s .timeOut entry ↔ d.timeoutEntry = entry := by
  unfold Dispatcher.timeoutEntry
  constructor
  · intro h
    cases h with
    | silence hmem hname => rw [← hname, Registry.get?_of_mem hmem]; rfl
    | nameless h => rw [Registry.get?_eq_none.2 h]; rfl
  · rintro rfl
    cases h : d.registry.get? d.onTimeout with
    | none => exact .nameless (Registry.get?_eq_none.1 h)
    | some entry => exact .silence (Registry.mem_of_get? h).1 (Registry.mem_of_get? h).2

theorem not_binds_arrive {arrival : Arrival} :
    ¬ Binds d chunkSize s (.arrive arrival) entry := nofun

/-! ## One move -/

theorem bound_step (h : s.conn.bound = some entry) (move : Move) :
    (step d chunkSize s move).conn.bound = some entry := by
  cases move with
  | arrive arrival => exact h
  | classify => rw [step_classify_of_bound h]; exact h
  | timeOut => rw [step_timeOut_of_bound h]; exact h

/-- An unbound connection is bound by the events, to what they call for. -/
theorem bound_step_of_unbound (h : s.conn.bound = none) :
    (step d chunkSize s move).conn.bound = some entry ↔ Binds d chunkSize s move entry := by
  cases move with
  | arrive arrival =>
    refine iff_of_false (fun hb => ?_) not_binds_arrive
    rw [step, h] at hb
    cases hb
  | classify =>
    rw [step_classify_of_unbound h, bound_receive h, binds_classify_iff, Connection.readLimit]
    cases (s.source.read (max chunkSize 1)).1 with
    | pending => simp
    | failed reason => simp
    | bytes data =>
      cases hout : d.outcome (s.conn.deferred ++ data) with
      | decided decided => simp [hout]
      | undecided => cases data <;> simp_all
  | timeOut =>
    rw [binds_timeOut_iff, step, Connection.timeOut_of_unbound h, Option.some.injEq]

/-- **One move.** It keeps what is bound, and binds what is not bound if it is an event. -/
theorem bound_step_eq_some :
    (step d chunkSize s move).conn.bound = some entry ↔
      s.conn.bound = some entry ∨ s.conn.bound = none ∧ Binds d chunkSize s move entry := by
  cases h : s.conn.bound with
  | none => simp [bound_step_of_unbound h]
  | some bound => simp [bound_step h move]

theorem bound_step_eq_none :
    (step d chunkSize s move).conn.bound = none ↔
      s.conn.bound = none ∧ ∀ entry, ¬ Binds d chunkSize s move entry := by
  simp only [Option.eq_none_iff_forall_ne_some, ne_eq, bound_step_eq_some, not_or, not_and,
    forall_and]
  exact and_congr_right fun h => ⟨fun hb entry => hb entry h, fun hb entry _ => hb entry⟩

theorem classify_answer (d : Dispatcher) (chunkSize : Nat) (s : Probing) (entry : Entry) :
    (s.conn.classify d chunkSize s.source).1 = .decided entry ↔
      (step d chunkSize s .classify).conn.bound = some entry := by
  cases h : s.conn.bound with
  | some bound =>
    rw [step_classify_of_bound h, Connection.classify_of_bound h, h]
    simp
  | none =>
    rw [step_classify_of_unbound h, Connection.classify_of_unbound h]
    simp only [Connection.statusAfter]
    split
    · rename_i bound hb
      simp [hb]
    · rename_i hb
      rw [hb]
      split_ifs <;> simp

theorem timeOut_answer (d : Dispatcher) (chunkSize : Nat) (s : Probing) :
    (step d chunkSize s .timeOut).conn.bound = some (s.conn.timeOut d).1 := by
  cases h : s.conn.bound with
  | some bound => rw [step_timeOut_of_bound h, Connection.timeOut_of_bound h, h]
  | none => rw [step, Connection.timeOut_of_unbound h]

theorem mem_of_binds (h : Binds d chunkSize s move entry) : entry ∈ d.registry.entries := by
  cases h with
  | data _ _ hout => exact Dispatcher.mem_of_outcome hout
  | finish _ hout => exact Dispatcher.mem_of_outcome hout
  | unfinished _ _ => exact d.registry.last_mem
  | failure _ => exact d.registry.last_mem
  | silence hmem _ => exact hmem
  | nameless _ => exact d.registry.first_mem

/-! ## Runs -/

theorem bound_run (h : s.conn.bound = some entry) (d : Dispatcher) (chunkSize : Nat)
    (moves : List Move) : (run d chunkSize s moves).conn.bound = some entry := by
  induction moves generalizing s with
  | nil => exact h
  | cons move moves ih => exact ih (bound_step h move)

theorem quiet_nil (d : Dispatcher) (chunkSize : Nat) (s : Probing) : Quiet d chunkSize s [] :=
  fun before move h => by simp at h

/-- A run without events goes on without one as long as the next move is none. -/
theorem quiet_concat {moves : List Move} :
    Quiet d chunkSize s (moves ++ [move]) ↔ Quiet d chunkSize s moves ∧
      ∀ entry, ¬ Binds d chunkSize (run d chunkSize s moves) move entry := by
  constructor
  · intro h
    exact ⟨fun before m hm => h before m (hm.trans (List.prefix_append _ _)),
      h moves move (List.prefix_refl _)⟩
  · rintro ⟨hmoves, hmove⟩ before m hm
    rcases List.prefix_concat_iff.1 hm with heq | hm
    · obtain ⟨rfl, rfl⟩ := List.append_singleton_inj.1 heq
      exact hmove
    · exact hmoves before m hm

/-- The first event of a longer run is that of the shorter one, or else the last move. -/
theorem firstEvent_concat {moves : List Move} :
    FirstEvent d chunkSize s (moves ++ [move]) entry ↔
      FirstEvent d chunkSize s moves entry ∨
        Quiet d chunkSize s moves ∧ Binds d chunkSize (run d chunkSize s moves) move entry := by
  constructor
  · rintro ⟨before, m, hm, hquiet, hbinds⟩
    rcases List.prefix_concat_iff.1 hm with heq | hm
    · obtain ⟨rfl, rfl⟩ := List.append_singleton_inj.1 heq
      exact .inr ⟨hquiet, hbinds⟩
    · exact .inl ⟨before, m, hm, hquiet, hbinds⟩
  · rintro (⟨before, m, hm, hquiet, hbinds⟩ | ⟨hquiet, hbinds⟩)
    · exact ⟨before, m, hm.trans (List.prefix_append _ _), hquiet, hbinds⟩
    · exact ⟨moves, move, List.prefix_refl _, hquiet, hbinds⟩

theorem bound_run_eq_none (h : s.conn.bound = none) (moves : List Move) :
    (run d chunkSize s moves).conn.bound = none ↔ Quiet d chunkSize s moves := by
  induction moves using List.reverseRecOn with
  | nil => exact iff_of_true h (quiet_nil d chunkSize s)
  | append_singleton moves move ih => rw [run_concat, bound_step_eq_none, ih, quiet_concat]

/-- **The first event binds.** -/
theorem bound_run_eq_some (h : s.conn.bound = none) (moves : List Move) (entry : Entry) :
    (run d chunkSize s moves).conn.bound = some entry ↔
      FirstEvent d chunkSize s moves entry := by
  induction moves using List.reverseRecOn with
  | nil =>
    refine iff_of_false (by rw [run_nil, h]; exact nofun) ?_
    rintro ⟨before, move, hprefix, -⟩
    simp at hprefix
  | append_singleton moves move ih =>
    rw [run_concat, bound_step_eq_some, ih, bound_run_eq_none h, firstEvent_concat]

theorem mem_of_bound_run {moves : List Move} (h : s.conn.bound = none)
    (hbound : (run d chunkSize s moves).conn.bound = some entry) : entry ∈ d.registry.entries := by
  obtain ⟨before, move, -, -, hbinds⟩ := (bound_run_eq_some h moves entry).1 hbound
  exact mem_of_binds hbinds

/-- While no read has been an event, every read gave bytes and left the question open. -/
theorem undecided_of_quiet {moves before : List Move} {data : Bytes} {rest : Source}
    (h : Quiet d chunkSize s moves) (hbefore : before ++ [.classify] <+: moves)
    (hread : (run d chunkSize s before).source.read (max chunkSize 1) = (.bytes data, rest)) :
    data ≠ [] ∧ d.outcome ((run d chunkSize s before).conn.deferred ++ data) = .undecided := by
  have hnone := h before .classify hbefore
  simp only [binds_classify_iff, hread] at hnone
  cases hout : d.outcome ((run d chunkSize s before).conn.deferred ++ data) with
  | decided decided => exact (hnone decided (by rw [hout])).elim
  | undecided =>
    refine ⟨fun hdata => ?_, rfl⟩
    exact hnone d.registry.last (by rw [hout]; exact ⟨hdata, rfl⟩)

/-! ## Binding by the first event -/

/-- What a state that is reached from a fresh connection has to do with the events on the way. -/
structure BoundOnce (d : Dispatcher) (chunkSize : Nat) (source : Source) (moves : List Move)
    (s : Probing) : Prop where
  /-- Without an event nothing is bound. -/
  quiet : s.conn.bound = none ↔ Quiet d chunkSize (start source) moves
  /-- The first event alone says what is bound. -/
  first : ∀ entry, s.conn.bound = some entry ↔ FirstEvent d chunkSize (start source) moves entry
  /-- While nothing is bound, every read that ended gave bytes and left the question open. -/
  undecided : s.conn.bound = none → ∀ before data rest, before ++ [.classify] <+: moves →
    (run d chunkSize (start source) before).source.read (max chunkSize 1) = (.bytes data, rest) →
    data ≠ [] ∧
      d.outcome ((run d chunkSize (start source) before).conn.deferred ++ data) = .undecided
  /-- A question is answered with what is bound once it was asked, and so is the end of patience. -/
  answers : (∀ entry, (s.conn.classify d chunkSize s.source).1 = .decided entry ↔
      (step d chunkSize s .classify).conn.bound = some entry) ∧
    (step d chunkSize s .timeOut).conn.bound = some (s.conn.timeOut d).1
  member : ∀ entry, s.conn.bound = some entry → entry ∈ d.registry.entries
  /-- Whatever happens later, both are answered with what is bound, and change nothing. -/
  final : ∀ entry, s.conn.bound = some entry → ∀ more,
    let later := run d chunkSize s more
    later.conn.bound = some entry ∧
      later.conn.classify d chunkSize later.source = (.decided entry, later.conn, later.source) ∧
      later.conn.timeOut d = (entry, later.conn)
  /-- The driver that refuses to bind for the second time never refuses. -/
  once : s.conn.classifyOnce d chunkSize s.source = some (s.conn.classify d chunkSize s.source) ∧
    s.conn.timeOutOnce d = some (s.conn.timeOut d)

/-- **A connection is bound once, by the first event.** -/
theorem run_binding (d : Dispatcher) (chunkSize : Nat) (source : Source) (moves : List Move) :
    BoundOnce d chunkSize source moves (run d chunkSize (start source) moves) where
  quiet := bound_run_eq_none rfl moves
  first := bound_run_eq_some rfl moves
  undecided := by
    intro hb before data rest hbefore hread
    exact undecided_of_quiet ((bound_run_eq_none rfl moves).1 hb) hbefore hread
  answers := ⟨classify_answer d chunkSize _, timeOut_answer d chunkSize _⟩
  member := by
    intro entry hentry
    obtain ⟨before, move, -, -, hbinds⟩ := (bound_run_eq_some rfl moves entry).1 hentry
    exact mem_of_binds hbinds
  final := by
    intro entry hentry more
    have hlater := bound_run hentry d chunkSize more
    exact ⟨hlater, Connection.classify_of_bound hlater _, Connection.timeOut_of_bound hlater⟩
  once := ⟨Connection.classifyOnce_eq d chunkSize _ _, Connection.timeOutOnce_eq d _⟩

end Probing

end Switchboard
