import Switchboard.Proofs.Binding

/-!
# Driving a connection to its decision

**The loop** (`Drives`). The connection is asked again and again until a question is answered with
an entry; the relation counts the questions. A question that is left pending has no answer, and a
loop that waits for ever drives nowhere.

**Cuts.** A stream reaches the connection in pieces, and each read takes a piece or the front of
one. However a stream that ends is cut, the loop comes to an entry: one that the dispatcher decides
on for some beginning of the stream, or, with the question open to the end, the last one
(`exists_drives_of_cut`).
-/

namespace Switchboard

/-! ## Cuts of a stream -/

/-- Some pieces, none of them empty, are a stream one after the other. -/
structure IsCut (stream : Bytes) (pieces : List Bytes) : Prop where
  flatten : pieces.flatten = stream
  ne_nil : ∀ piece ∈ pieces, piece ≠ []

/-- A stream that comes in pieces and then ends. -/
def Source.ofCut (pieces : List Bytes) : Source := pieces.map .data ++ [.finish]

namespace IsCut

variable {stream : Bytes} {pieces : List Bytes} {limit : Nat}

theorem read_nil (h : IsCut [] pieces) (limit : Nat) :
    (Source.ofCut pieces).read limit = (.bytes [], Source.ofCut pieces) := by
  cases pieces with
  | nil => rfl
  | cons piece pieces =>
    have hempty := h.flatten
    rw [List.flatten_cons, List.append_eq_nil_iff] at hempty
    exact absurd hempty.1 (h.ne_nil piece List.mem_cons_self)

/-- A read of at least a byte takes the front of what is left, and leaves a cut of the rest. What
comes behind the pieces stays where it is. -/
theorem read_data (h : IsCut stream pieces) (hstream : stream ≠ []) (hlimit : 0 < limit)
    (after : Source) : ∃ data rest pieces',
      Source.read limit (pieces.map .data ++ after) = (.bytes data, pieces'.map .data ++ after) ∧
      data ≠ [] ∧ stream = data ++ rest ∧ IsCut rest pieces' := by
  cases pieces with
  | nil => exact absurd h.flatten.symm hstream
  | cons piece pieces =>
    have hpiece : piece ≠ [] := h.ne_nil piece List.mem_cons_self
    have hpieces : ∀ p ∈ pieces, p ≠ [] := fun p hp => h.ne_nil p (List.mem_cons_of_mem _ hp)
    have htake : piece.take limit ≠ [] := by
      rw [ne_eq, List.take_eq_nil_iff, not_or]
      exact ⟨by omega, hpiece⟩
    have hsplit : stream = piece.take limit ++ (piece.drop limit ++ pieces.flatten) := by
      rw [← List.append_assoc, List.take_append_drop, ← List.flatten_cons, h.flatten]
    -- The read stops inside the first piece or at its end.
    by_cases hdrop : piece.drop limit = []
    · rw [hdrop, List.nil_append] at hsplit
      refine ⟨_, _, pieces, ?_, htake, hsplit, rfl, hpieces⟩
      simp [Source.read, hdrop]
    · refine ⟨_, _, piece.drop limit :: pieces, ?_, htake, hsplit, rfl, ?_⟩
      · simp [Source.read, hdrop]
      · intro p hp
        rcases List.mem_cons.1 hp with rfl | hp
        · exact hdrop
        · exact hpieces p hp

theorem read (h : IsCut stream pieces) (hstream : stream ≠ []) (hlimit : 0 < limit) :
    ∃ data rest pieces', (Source.ofCut pieces).read limit = (.bytes data, Source.ofCut pieces') ∧
      data ≠ [] ∧ stream = data ++ rest ∧ IsCut rest pieces' :=
  h.read_data hstream hlimit [.finish]

end IsCut

/-! ## The loop -/

namespace Connection

variable {d : Dispatcher} {conn : Connection} {data : Bytes} {entry : Entry}

theorem receive_of_decided (h : d.outcome (conn.deferred ++ data) = .decided entry) :
    conn.receive d (.bytes data) = ⟨conn.deferred ++ data, some entry⟩ := by
  simp only [receive, h]

theorem receive_of_undecided (h : d.outcome (conn.deferred ++ data) = .undecided)
    (hdata : data ≠ []) : conn.receive d (.bytes data) = ⟨conn.deferred ++ data, none⟩ := by
  simp [receive, h, hdata]

theorem receive_finish (h : d.outcome conn.deferred = .undecided) :
    conn.receive d (.bytes []) = ⟨conn.deferred, some d.registry.last⟩ := by
  simp [receive, h]

end Connection

namespace Probing

/-- A connection is asked until a question is answered with an entry, which takes so many
questions. -/
inductive Drives (d : Dispatcher) (chunkSize : Nat) : Nat → Probing → Entry → Probing → Prop
  | decided {s : Probing} {entry : Entry} :
      (s.conn.classify d chunkSize s.source).1 = .decided entry →
      Drives d chunkSize 1 s entry (step d chunkSize s .classify)
  | undecided {n : Nat} {s t : Probing} {entry : Entry} :
      (s.conn.classify d chunkSize s.source).1 = .undecided →
      Drives d chunkSize n (step d chunkSize s .classify) entry t →
      Drives d chunkSize (n + 1) s entry t

variable {d : Dispatcher} {chunkSize : Nat} {s : Probing} {entry : Entry}

/-- The connection is bound to the entry that the loop ends with. -/
theorem Drives.bound {n : Nat} {t : Probing} (h : Drives d chunkSize n s entry t) :
    t.conn.bound = some entry := by
  induction h with
  | decided hanswer => exact (classify_answer d chunkSize _ _).1 hanswer
  | undecided _ _ ih => exact ih

/-- The loop ends with one entry only. -/
theorem Drives.unique {n m : Nat} {t t' : Probing} {other : Entry}
    (h : Drives d chunkSize n s entry t) (h' : Drives d chunkSize m s other t') :
    entry = other := by
  induction h generalizing m with
  | decided hanswer =>
    cases h' with
    | decided hanswer' => exact Status.decided.inj (hanswer.symm.trans hanswer')
    | undecided hanswer' _ => cases hanswer.symm.trans hanswer'
  | undecided hanswer _ ih =>
    cases h' with
    | decided hanswer' => cases hanswer.symm.trans hanswer'
    | undecided _ hdrives => exact ih hdrives

theorem Drives.eq_run {n : Nat} {t : Probing} (h : Drives d chunkSize n s entry t) :
    t = run d chunkSize s (List.replicate n .classify) := by
  induction h with
  | decided _ => rfl
  | undecided _ _ ih => rw [ih, List.replicate_succ]; rfl

/-- A question without an answer leaves the connection unbound and the question open. -/
theorem undecided_of_answer (h : (s.conn.classify d chunkSize s.source).1 = .undecided) :
    (step d chunkSize s .classify).conn.bound = none ∧
      d.outcome (step d chunkSize s .classify).conn.deferred = .undecided := by
  cases hs : s.conn.bound with
  | some bound =>
    rw [Connection.classify_of_bound hs] at h
    cases h
  | none =>
    rw [Connection.classify_of_unbound hs] at h
    rw [step_classify_of_unbound hs]
    -- Of all that a read can return, only bytes leave the connection unbound.
    cases hread : (s.source.read (Connection.readLimit chunkSize)).1 with
    | pending => simp [hread, Connection.statusAfter, Connection.receive, hs] at h
    | failed reason => simp [hread, Connection.statusAfter, Connection.receive] at h
    | bytes data =>
      cases hout : d.outcome (s.conn.deferred ++ data) with
      | decided entry => simp [hread, Connection.statusAfter, Connection.receive, hout] at h
      | undecided =>
        by_cases hdata : data = []
        · rw [hdata, List.append_nil] at hout
          simp [hread, hdata, Connection.statusAfter, Connection.receive_finish hout] at h
        · show (s.conn.receive d (.bytes data)).bound = none ∧
            d.outcome (s.conn.receive d (.bytes data)).deferred = .undecided
          rw [Connection.receive_of_undecided hout hdata]
          exact ⟨rfl, hout⟩

/-- Before the loop ends, the connection is not bound, and every read has left the question open. -/
theorem Drives.undecided_before {n : Nat} {t : Probing} (h : Drives d chunkSize n s entry t)
    (hs : s.conn.bound = none) {j : Nat} (hj : j < n) :
    (run d chunkSize s (List.replicate j .classify)).conn.bound = none ∧
      (0 < j →
        d.outcome (run d chunkSize s (List.replicate j .classify)).conn.deferred = .undecided) := by
  induction h generalizing j with
  | decided _ =>
    obtain rfl : j = 0 := by omega
    exact ⟨hs, fun hpos => absurd hpos (Nat.lt_irrefl 0)⟩
  | undecided hanswer _ ih =>
    obtain ⟨hbound, hout⟩ := undecided_of_answer hanswer
    cases j with
    | zero => exact ⟨hs, fun hpos => absurd hpos (Nat.lt_irrefl 0)⟩
    | succ j =>
      obtain ⟨hnone, hopen⟩ := ih hbound (Nat.lt_of_succ_lt_succ hj)
      rw [List.replicate_succ]
      refine ⟨hnone, fun _ => ?_⟩
      cases j with
      | zero => exact hout
      | succ j => exact hopen (Nat.succ_pos j)

theorem Drives.pos {n : Nat} {t : Probing} (h : Drives d chunkSize n s entry t) : 0 < n := by
  cases h <;> exact Nat.succ_pos _

variable {data : Bytes} {rest : Source}

theorem drives_of_read {result : ReadResult} (hs : s.conn.bound = none)
    (hread : s.source.read (Connection.readLimit chunkSize) = (result, rest))
    (hbound : (s.conn.receive d result).bound = some entry) :
    Drives d chunkSize 1 s entry ⟨s.conn.receive d result, rest⟩ := by
  have hstep : step d chunkSize s .classify = ⟨s.conn.receive d result, rest⟩ := by
    rw [step_classify_of_unbound hs, hread]
  rw [← hstep]
  refine .decided ((classify_answer d chunkSize s entry).2 ?_)
  rw [hstep]
  exact hbound

/-- A read after which the question is open goes on with the loop. -/
theorem Drives.of_undecided {n : Nat} {t : Probing} (hs : s.conn.bound = none)
    (hread : s.source.read (Connection.readLimit chunkSize) = (.bytes data, rest))
    (hdata : data ≠ []) (hout : d.outcome (s.conn.deferred ++ data) = .undecided)
    (h : Drives d chunkSize n ⟨⟨s.conn.deferred ++ data, none⟩, rest⟩ entry t) :
    Drives d chunkSize (n + 1) s entry t := by
  have hreceive := Connection.receive_of_undecided hout hdata
  have hstep : step d chunkSize s .classify = ⟨⟨s.conn.deferred ++ data, none⟩, rest⟩ := by
    rw [step_classify_of_unbound hs, hread, hreceive]
  refine .undecided ?_ (hstep ▸ h)
  rw [Connection.classify_of_unbound hs, hread, hreceive]
  rfl

/-- An entry that the dispatcher decides on for some beginning of a stream, or the last entry if it
leaves the question open to the end. -/
def Reached (d : Dispatcher) (stream : Bytes) (entry : Entry) : Prop :=
  (∃ data more, stream = data ++ more ∧ d.outcome data = .decided entry) ∨
    d.outcome stream = .undecided ∧ entry = d.registry.last

/-- The state in which the loop ends on a stream: the dispatcher decides on what was read, or all of
the stream was read with the question open. -/
def Concludes (d : Dispatcher) (stream : Bytes) (entry : Entry) (t : Probing) : Prop :=
  (t.conn.deferred <+: stream ∧ d.outcome t.conn.deferred = .decided entry) ∨
    t.conn.deferred = stream ∧ d.outcome stream = .undecided ∧ entry = d.registry.last

theorem Concludes.reached {stream : Bytes} {t : Probing} (h : Concludes d stream entry t) :
    Reached d stream entry := by
  rcases h with ⟨⟨more, hmore⟩, hout⟩ | ⟨-, hout, hlast⟩
  · exact .inl ⟨t.conn.deferred, more, hmore.symm, hout⟩
  · exact .inr ⟨hout, hlast⟩

/-- At the end of the stream the connection is bound, whatever the dispatcher says. -/
theorem exists_drives_of_end (hs : s.conn.bound = none)
    (hread : s.source.read (Connection.readLimit chunkSize) = (.bytes [], rest)) :
    ∃ entry t, Drives d chunkSize 1 s entry t ∧ Concludes d s.conn.deferred entry t := by
  have hdeferred : (s.conn.receive d (.bytes [])).deferred = s.conn.deferred := by
    rw [Connection.deferred_receive]
    exact List.append_nil _
  cases hout : d.outcome s.conn.deferred with
  | decided entry =>
    have hout' : d.outcome (s.conn.deferred ++ []) = .decided entry := by rwa [List.append_nil]
    have hbound : (s.conn.receive d (.bytes [])).bound = some entry := by
      rw [Connection.receive_of_decided hout']
    refine ⟨entry, _, drives_of_read hs hread hbound, .inl ⟨?_, ?_⟩⟩
    · exact hdeferred ▸ List.prefix_refl _
    · exact hdeferred ▸ hout
  | undecided =>
    have hbound : (s.conn.receive d (.bytes [])).bound = some d.registry.last := by
      rw [Connection.receive_finish hout]
    exact ⟨_, _, drives_of_read hs hread hbound, .inr ⟨hdeferred, hout, rfl⟩⟩

/-- **However a stream that ends is cut, the loop comes to an entry.** -/
theorem exists_drives_of_cut (d : Dispatcher) (chunkSize : Nat) {pieces : List Bytes}
    {stream : Bytes} (hs : s.conn.bound = none) (hsource : s.source = .ofCut pieces)
    (hcut : IsCut stream pieces) :
    ∃ n entry t, Drives d chunkSize n s entry t ∧
      Concludes d (s.conn.deferred ++ stream) entry t := by
  -- Every read that does not end the loop leaves less of the stream.
  induction hn : stream.length using Nat.strong_induction_on generalizing s pieces stream with
  | _ n ih =>
    by_cases hstream : stream = []
    · subst hstream
      have hread := hcut.read_nil (Connection.readLimit chunkSize)
      rw [← hsource] at hread
      obtain ⟨entry, t, hdrives, hend⟩ := exists_drives_of_end (d := d) hs hread
      exact ⟨1, entry, t, hdrives, by rwa [List.append_nil]⟩
    · obtain ⟨data, rest, pieces', hread, hdata, rfl, hcut'⟩ :=
        hcut.read hstream (Nat.le_max_right chunkSize 1)
      rw [← hsource] at hread
      rw [← List.append_assoc]
      cases hout : d.outcome (s.conn.deferred ++ data) with
      | decided entry =>
        have hreceive := Connection.receive_of_decided hout
        have hbound : (s.conn.receive d (.bytes data)).bound = some entry := by rw [hreceive]
        refine ⟨1, entry, _, drives_of_read hs hread hbound, .inl ⟨?_, ?_⟩⟩
        · rw [hreceive]
          exact List.prefix_append _ rest
        · rwa [hreceive]
      | undecided =>
        have hshorter : rest.length < n := by
          have := List.length_pos_iff.2 hdata
          rw [List.length_append] at hn
          omega
        obtain ⟨m, entry, t, hdrives, hend⟩ :=
          ih rest.length hshorter (s := ⟨⟨s.conn.deferred ++ data, none⟩, .ofCut pieces'⟩)
            rfl rfl hcut' rfl
        exact ⟨m + 1, entry, t, .of_undecided hs hread hdata hout hdrives, hend⟩

end Probing

end Switchboard
