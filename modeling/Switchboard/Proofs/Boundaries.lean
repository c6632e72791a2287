import Mathlib.Data.Nat.Find
import Mathlib.Order.Bounds.Basic
import Switchboard.Proofs.Driving

/-!
# Where reads end

**Boundaries** (`Source.EndsAt`). The reads of a source take its bytes from the front, one after the
other. A boundary is a number of bytes that some of the first reads give together. It depends on the
pieces that the bytes come in and on how much a read may take, and on nothing that is asked of the
bytes.

**The first boundary.** Take a dispatcher that leaves the question open on fewer bytes than a floor.
The loop then goes on to the first boundary that is not below the floor, and what the dispatcher
says there, with the bytes up to that boundary and no more, decides (`drives_of_firstEnd`).
-/

namespace Switchboard

/-! ## Boundaries -/

namespace Source

variable {limit k j : Nat} {source : Source}

/-- The bytes that the first so many reads give, one after the other. -/
def taken (limit : Nat) : Nat → Source → Bytes
  | 0, _ => []
  | k + 1, source => (source.read limit).1.data ++ taken limit k (source.read limit).2

/-- A read ends behind so many bytes of a source. -/
def EndsAt (limit : Nat) (source : Source) (m : Nat) : Prop :=
  ∃ k, (source.taken limit k).length = m

/-- The first boundary that is not below a floor. -/
def FirstEnd (limit : Nat) (source : Source) (floor m : Nat) : Prop :=
  IsLeast {m | source.EndsAt limit m ∧ floor ≤ m} m

theorem remaining_map_data (pieces : List Bytes) :
    remaining (pieces.map .data) = pieces.flatten := by
  induction pieces with
  | nil => rfl
  | cons piece pieces ih => rw [List.map_cons, remaining_data, ih, List.flatten_cons]

theorem remaining_ofCut {stream : Bytes} {pieces : List Bytes} (h : IsCut stream pieces) :
    (ofCut pieces).remaining = stream := by
  rw [ofCut, remaining_append, remaining_map_data, h.flatten]
  exact List.append_nil stream

theorem taken_succ_of_read {result : ReadResult} {rest : Source}
    (h : source.read limit = (result, rest)) (k : Nat) :
    source.taken limit (k + 1) = result.data ++ rest.taken limit k := by
  rw [taken, h]

theorem taken_prefix_remaining (limit k : Nat) (source : Source) :
    source.taken limit k <+: source.remaining := by
  induction k generalizing source with
  | zero => exact List.nil_prefix
  | succ k ih =>
    rw [taken, ← data_append_remaining_read limit source]
    exact List.prefix_append_right_inj _ |>.2 (ih _)

theorem taken_mono (h : j ≤ k) (source : Source) :
    source.taken limit j <+: source.taken limit k := by
  induction j generalizing k source with
  | zero => exact List.nil_prefix
  | succ j ih =>
    obtain ⟨k, rfl⟩ := Nat.exists_eq_succ_of_ne_zero (Nat.ne_zero_of_lt h)
    rw [taken, taken]
    exact List.prefix_append_right_inj _ |>.2 (ih (Nat.le_of_succ_le_succ h) _)

theorem FirstEnd.exists_taken {floor m : Nat} (h : source.FirstEnd limit floor m) :
    ∃ k, source.taken limit k = source.remaining.take m ∧
      ∀ j < k, (source.taken limit j).length < floor := by
  classical
  obtain ⟨⟨k, hk⟩, hfloor⟩ := h.1
  have hex : ∃ k, floor ≤ (source.taken limit k).length := ⟨k, hk ▸ hfloor⟩
  have hmin : (source.taken limit (Nat.find hex)).length = m := by
    refine Nat.le_antisymm ?_ (h.2 ⟨⟨_, rfl⟩, Nat.find_spec hex⟩)
    rw [← hk]
    exact (taken_mono (Nat.find_min' hex (hk ▸ hfloor)) source).length_le
  refine ⟨Nat.find hex, ?_, fun j hj => Nat.not_le.1 (Nat.find_min hex hj)⟩
  rw [← hmin]
  exact List.prefix_iff_eq_take.1 (taken_prefix_remaining limit _ source)

end Source

/-- Every read of what comes in pieces gives a byte at least, as long as there are any. -/
theorem IsCut.min_le_length_taken {stream : Bytes} {pieces : List Bytes} {limit : Nat}
    (h : IsCut stream pieces) (hlimit : 0 < limit) (after : Source) (k : Nat) :
    min k stream.length ≤ (Source.taken limit k (pieces.map .data ++ after)).length := by
  induction k generalizing stream pieces with
  | zero => exact Nat.le_of_eq (Nat.zero_min _)
  | succ k ih =>
    by_cases hstream : stream = []
    · rw [hstream]
      exact Nat.zero_le _
    · obtain ⟨data, rest, pieces', hread, hdata, rfl, hcut⟩ := h.read_data hstream hlimit after
      have hrest := ih hcut
      have hpos := List.length_pos_iff.2 hdata
      rw [Source.taken_succ_of_read hread, List.length_append, List.length_append,
        ReadResult.data]
      omega

/-- A stream that comes in pieces has a boundary that is not below a floor, if it is that long. -/
theorem IsCut.exists_firstEnd {stream : Bytes} {pieces : List Bytes} {limit floor : Nat}
    (h : IsCut stream pieces) (hlimit : 0 < limit) (hfloor : floor ≤ stream.length)
    (after : Source) : ∃ m, Source.FirstEnd limit (pieces.map .data ++ after) floor m := by
  classical
  have hlong := h.min_le_length_taken hlimit after stream.length
  rw [Nat.min_self] at hlong
  have hex : ∃ m, Source.EndsAt limit (pieces.map .data ++ after) m ∧ floor ≤ m :=
    ⟨_, ⟨stream.length, rfl⟩, Nat.le_trans hfloor hlong⟩
  exact ⟨Nat.find hex, Nat.find_spec hex, fun m hm => Nat.find_min' hex hm⟩

/-! ## Driving to a boundary -/

namespace Probing

variable {d : Dispatcher} {chunkSize : Nat} {s : Probing} {stream : Bytes} {pieces : List Bytes}
  {after : Source} {entry : Entry}

/-- The loop goes on over reads that leave the question open, and ends with the one that decides. -/
theorem exists_drives_of_taken {k : Nat} (hs : s.conn.bound = none)
    (hsource : s.source = pieces.map .data ++ after) (hcut : IsCut stream pieces)
    (hstream : stream ≠ [])
    (hopen : ∀ j, 1 ≤ j → j ≤ k →
      (s.source.taken (Connection.readLimit chunkSize) j).length < stream.length ∧
        d.outcome (s.conn.deferred ++ s.source.taken (Connection.readLimit chunkSize) j) =
          .undecided)
    (hout : d.outcome (s.conn.deferred ++ s.source.taken (Connection.readLimit chunkSize) (k + 1)) =
      .decided entry) :
    ∃ t, Drives d chunkSize (k + 1) s entry t := by
  -- By induction on the reads that leave the question open; what they returned is deferred.
  induction k generalizing s stream pieces with
  | zero =>
    obtain ⟨data, rest, pieces', hread, -, -, -⟩ :=
      hcut.read_data hstream (Nat.le_max_right chunkSize 1) after
    rw [← hsource] at hread
    have htaken : s.source.taken (Connection.readLimit chunkSize) 1 = data :=
      (Source.taken_succ_of_read hread 0).trans (List.append_nil data)
    rw [Nat.zero_add, htaken] at hout
    have hbound : (s.conn.receive d (.bytes data)).bound = some entry := by
      rw [Connection.receive_of_decided hout]
    exact ⟨_, drives_of_read hs hread hbound⟩
  | succ k ih =>
    obtain ⟨data, rest, pieces', hread, hdata, rfl, hcut'⟩ :=
      hcut.read_data hstream (Nat.le_max_right chunkSize 1) after
    rw [← hsource] at hread
    have htaken : ∀ j, s.source.taken (Connection.readLimit chunkSize) (j + 1) =
        data ++ Source.taken (Connection.readLimit chunkSize) j (pieces'.map .data ++ after) :=
      Source.taken_succ_of_read hread
    obtain ⟨hshort, hfirst⟩ := hopen 1 (Nat.le_refl 1) (Nat.le_add_left 1 k)
    rw [htaken 0, Source.taken, List.append_nil] at hshort hfirst
    -- The question is still open short of the whole stream, so there is something left to read.
    have hrest : rest ≠ [] := by
      rintro rfl
      rw [List.append_nil] at hshort
      exact Nat.lt_irrefl _ hshort
    obtain ⟨t, hdrives⟩ := ih
      (s := ⟨⟨s.conn.deferred ++ data, none⟩, pieces'.map Arrival.data ++ after⟩)
      rfl rfl hcut' hrest
      (by
        intro j hpos hj
        obtain ⟨hlength, hundecided⟩ := hopen (j + 1) (Nat.le_add_left 1 j) (Nat.succ_le_succ hj)
        rw [htaken, List.length_append, List.length_append] at hlength
        rw [htaken, ← List.append_assoc] at hundecided
        exact ⟨Nat.lt_of_add_lt_add_left hlength, hundecided⟩)
      (by rwa [htaken, ← List.append_assoc] at hout)
    exact ⟨t, .of_undecided hs hread hdata hfirst hdrives⟩

/-- A fresh connection to a source is asked until there is an answer, and these questions bind it to
an entry. -/
def RoutesFrom (d : Dispatcher) (chunkSize : Nat) (source : Source) (entry : Entry) : Prop :=
  ∃ n t, Drives d chunkSize n (start source) entry t ∧
    t = run d chunkSize (start source) (List.replicate n .classify) ∧ t.conn.bound = some entry

theorem RoutesFrom.unique {source : Source} {other : Entry}
    (h : RoutesFrom d chunkSize source entry) (h' : RoutesFrom d chunkSize source other) :
    entry = other := by
  obtain ⟨_, _, hdrives, -⟩ := h
  obtain ⟨_, _, hdrives', -⟩ := h'
  exact hdrives.unique hdrives'

/-- **The first boundary that is not below the floor decides.** -/
theorem drives_of_firstEnd {floor m : Nat} (hcut : IsCut stream pieces) (hpos : 0 < floor)
    (hfloor : floor ≤ stream.length)
    (hopen : ∀ data, data <+: stream ++ after.remaining → data ≠ [] → data.length < floor →
      d.outcome data = .undecided)
    (hm : Source.FirstEnd (Connection.readLimit chunkSize) (pieces.map .data ++ after) floor m)
    (hout : d.outcome ((stream ++ after.remaining).take m) = .decided entry) :
    RoutesFrom d chunkSize (pieces.map .data ++ after) entry := by
  have hlimit : 0 < Connection.readLimit chunkSize := Nat.le_max_right chunkSize 1
  have hremaining : Source.remaining (pieces.map .data ++ after) = stream ++ after.remaining := by
    rw [Source.remaining_append, Source.remaining_map_data, hcut.flatten]
  obtain ⟨k, htaken, hbelow⟩ := hm.exists_taken
  rw [hremaining] at htaken
  cases k with
  | zero =>
    -- Nothing was read by then, though the floor is not at the beginning.
    have hm0 : floor ≤ ((stream ++ after.remaining).take m).length := by
      rw [List.length_take, List.length_append]
      exact le_min hm.1.2 (by omega)
    rw [← htaken] at hm0
    exact absurd hm0 (Nat.not_le.2 hpos)
  | succ k =>
    have hstream : stream ≠ [] := List.length_pos_iff.1 (Nat.lt_of_lt_of_le hpos hfloor)
    have hreads : ∀ j, 1 ≤ j → j ≤ k →
        (Source.taken (Connection.readLimit chunkSize) j (pieces.map .data ++ after)).length <
            stream.length ∧
          d.outcome (Source.taken (Connection.readLimit chunkSize) j
            (pieces.map .data ++ after)) = .undecided := by
      intro j hj hjk
      have hshort := hbelow j (Nat.lt_succ_of_le hjk)
      have hprefix := Source.taken_prefix_remaining (Connection.readLimit chunkSize) j
        (pieces.map .data ++ after)
      rw [hremaining] at hprefix
      have hread := hcut.min_le_length_taken hlimit after j
      refine ⟨Nat.lt_of_lt_of_le hshort hfloor, hopen _ hprefix ?_ hshort⟩
      refine List.length_pos_iff.1 (Nat.lt_of_lt_of_le ?_ hread)
      exact lt_min hj (Nat.lt_of_lt_of_le hpos hfloor)
    have hlast : d.outcome (Source.taken (Connection.readLimit chunkSize) (k + 1)
        (pieces.map .data ++ after)) = .decided entry := by
      rw [htaken, hout]
    obtain ⟨t, hdrives⟩ := exists_drives_of_taken
      (s := start (pieces.map Arrival.data ++ after)) rfl rfl hcut hstream hreads hlast
    exact ⟨k + 1, t, hdrives, hdrives.eq_run, hdrives.bound⟩

end Probing

end Switchboard
