import Mathlib.Data.List.MinMax
import Mathlib.Order.Nat
import Switchboard.Proofs.Driving

/-!
# Probing ends

**Horizons.** Every detector makes up its mind within a number of bytes that does not depend on what
the bytes are (`Detector.horizon`). Only one that compares the names of a ClientHello may wait for
more than a few of them, and then for a record at most.

**The dispatcher.** The question is open only while a gate is closed or a detector waits. So as many
bytes as the largest gate and every horizon demand settle it (`settledBy`).

**The connection.** While it is not bound it holds fewer bytes than settle the question, and each
question adds one at least, so the bound on bytes is a bound on questions. The last read may go past
it by a chunk.

Main result: `probing_ends`.
-/

namespace Switchboard

/-! ## Horizons -/

namespace Signature

theorem opensWith_ne_wait {word data : Bytes} (h : word.length ≤ data.length) :
    opensWith word data ≠ .wait := by
  rw [opensWith, if_neg (Nat.not_lt.2 h)]
  exact Verdict.ofBool_ne_wait _

theorem openVpn_ne_wait {data : Bytes} (h : 2 ≤ data.length) : openVpn data ≠ .wait := by
  match data, h with
  | high :: low :: packet, _ => exact Verdict.ofBool_ne_wait _

theorem xmpp_ne_wait {data : Bytes} (h : xmppPreamble ≤ data.length) : xmpp data ≠ .wait := by
  unfold xmpp
  by_cases hnamed : data.includes jabber = true
  · rw [if_pos hnamed]
    nofun
  · rw [if_neg hnamed, if_neg (Nat.not_lt.2 h)]
    nofun

theorem firstMethod_ne_wait {data : Bytes} {methods : List Bytes}
    (h : ∀ method ∈ methods, method.length ≤ data.length) : firstMethod data methods ≠ .wait := by
  induction methods with
  | nil => nofun
  | cons method others ih =>
    have hmethod := opensWith_ne_wait (h method List.mem_cons_self)
    have hothers := ih fun other hother => h other (List.mem_cons_of_mem _ hother)
    unfold firstMethod
    split
    · exact hothers
    · exact hmethod

/-- The length of the longest request method. -/
def longestMethod : Nat := 7

theorem length_le_longestMethod : ∀ method ∈ httpMethods, method.length ≤ longestMethod := by
  decide

theorem http_ne_wait {data : Bytes} (h : longestMethod ≤ data.length) : http data ≠ .wait := by
  unfold http
  by_cases hversion : data.includes httpVersion = true
  · rw [if_pos hversion]
    nofun
  · rw [if_neg hversion]
    exact firstMethod_ne_wait fun method hmethod =>
      Nat.le_trans (length_le_longestMethod method hmethod) h

theorem adb_ne_wait {data : Bytes} (h : adbPacket + adbEmptyMessage.length ≤ data.length) :
    adb data ≠ .wait := by
  have hpacket : ¬ data.length < adbPacket := by omega
  unfold adb
  rw [if_neg hpacket, if_neg (Nat.not_lt.2 h)]
  split_ifs
  · nofun
  · nofun
  · exact Verdict.ofBool_ne_wait _

theorem socks5_ne_wait {data : Bytes} (h : 2 + socksMethodCount ≤ data.length) :
    socks5 data ≠ .wait := by
  match data, h with
  | version :: count :: rest, h =>
    rw [List.length_cons, List.length_cons] at h
    simp only [socks5]
    split_ifs with hversion hcount hshort
    · nofun
    · nofun
    · omega
    · exact Verdict.ofBool_ne_wait _

end Signature

/-- A header is enough without criteria, and the largest record is enough with them. -/
def Tls.Criteria.horizon (criteria : Tls.Criteria) : Nat :=
  if criteria.isEmpty then recordHeader else recordHeader + maxRecord

theorem Tls.Criteria.inspect_ne_wait {criteria : Tls.Criteria} {data : Bytes}
    (h : criteria.horizon ≤ data.length) : (criteria.inspect data).verdict ≠ .wait := by
  unfold horizon at h
  have hheader : recordHeader ≤ data.length := by
    split_ifs at h
    · exact h
    · exact Nat.le_trans (Nat.le_add_right _ _) h
  match data, hheader with
  | contentType :: major :: minor :: high :: low :: rest, _ =>
    simp only [inspect]
    split_ifs with htype hmajor hlength hempty hshort
    · nofun
    · nofun
    · nofun
    · nofun
    · rw [if_neg hempty] at h
      simp only [List.length_cons, recordHeader] at h
      omega
    · exact Inspection.verdict_inspectRecord_ne_wait criteria _

namespace Detector

/-- The number of bytes within which the detector makes up its mind. -/
def horizon : Detector → Nat
  | ssh => Signature.sshBanner.length
  | openVpn => 2
  | tinc => Signature.tincRequest.length
  | xmpp => Signature.xmppPreamble
  | http => Signature.longestMethod
  | tls criteria => criteria.horizon
  | adb => Signature.adbPacket + Signature.adbEmptyMessage.length
  | socks5 => 2 + Signature.socksMethodCount
  | pattern _ | always => 0

/-- **Beyond its horizon a detector does not wait.** -/
theorem verdict_ne_wait {detector : Detector} {data : Bytes} (h : detector.horizon ≤ data.length) :
    detector.verdict data ≠ .wait := by
  cases detector with
  | ssh => exact Signature.opensWith_ne_wait h
  | openVpn => exact Signature.openVpn_ne_wait h
  | tinc => exact Signature.opensWith_ne_wait h
  | xmpp => exact Signature.xmpp_ne_wait h
  | http => exact Signature.http_ne_wait h
  | tls criteria => exact Tls.Criteria.inspect_ne_wait h
  | adb => exact Signature.adb_ne_wait h
  | socks5 => exact Signature.socks5_ne_wait h
  | pattern set => exact Verdict.ofBool_ne_wait _
  | always => nofun

/-- The detector compares names or protocols, so it needs a whole record. -/
def ComparesNames (detector : Detector) : Prop :=
  ∃ criteria : Tls.Criteria, detector = tls criteria ∧ criteria.isEmpty = false

theorem horizon_le_of_not_comparesNames {detector : Detector} (h : ¬ detector.ComparesNames) :
    detector.horizon ≤ 54 := by
  cases detector with
  | tls criteria =>
    have hempty : criteria.isEmpty = true :=
      Bool.eq_true_of_not_eq_false fun hsome => h ⟨criteria, rfl, hsome⟩
    rw [horizon, Tls.Criteria.horizon, if_pos hempty]
    decide
  | ssh | openVpn | tinc | xmpp | http | adb | socks5 => decide
  | pattern _ | always => exact Nat.zero_le _

theorem horizon_le (detector : Detector) : detector.horizon ≤ 18437 := by
  by_cases h : detector.ComparesNames
  · obtain ⟨criteria, rfl, hsome⟩ := h
    rw [horizon, Tls.Criteria.horizon, if_neg (Bool.eq_false_iff.1 hsome)]
    decide
  · exact Nat.le_trans (horizon_le_of_not_comparesNames h) (by decide)

end Detector

/-! ## The dispatcher -/

namespace Registry

variable {r : Registry}

open Classical in
/-- The largest gate of a probed entry; zero if there is none. -/
noncomputable def largestGate (r : Registry) : Nat :=
  ((r.entries.filter (r.Probed ·)).map Entry.gate).foldr max 0

/-- Some probed entry compares names or protocols. -/
def ComparesNames (r : Registry) : Prop :=
  ∃ entry, r.Probed entry ∧ ∃ detector ∈ entry.detector, detector.ComparesNames

open Classical in
theorem gate_le_largestGate {entry : Entry} (h : r.Probed entry) : entry.gate ≤ r.largestGate := by
  have hmem : entry.gate ∈ (r.entries.filter (r.Probed ·)).map Entry.gate :=
    List.mem_map_of_mem (List.mem_filter.2 ⟨h.1, decide_eq_true h⟩)
  exact List.le_max_of_le hmem (Nat.le_refl _)

/-- Beyond all gates and horizons nobody waits. -/
theorem not_someWaits_of_length {bound : Nat} {data : Bytes} (hgate : r.largestGate ≤ bound)
    (hhorizon : ∀ entry, r.Probed entry → ∀ detector ∈ entry.detector, detector.horizon ≤ bound)
    (hlength : bound ≤ data.length) : ¬ r.SomeWaits data := by
  rintro ⟨entry, hprobed, hclosed | ⟨-, hwaits⟩⟩
  · exact hclosed (Nat.le_trans (gate_le_largestGate hprobed) (Nat.le_trans hgate hlength))
  · rw [Entry.verdict?, Option.map_eq_some_iff] at hwaits
    obtain ⟨detector, hdetector, hwait⟩ := hwaits
    have hle := hhorizon entry hprobed detector hdetector
    exact Detector.verdict_ne_wait (Nat.le_trans hle hlength) hwait

end Registry

/-- So many bytes, and there is one at least, always settle the question. -/
structure Dispatcher.SettledBy (d : Dispatcher) (bound : Nat) : Prop where
  pos : 0 < bound
  decided : ∀ data : Bytes, bound ≤ data.length → ∃ entry, d.outcome data = .decided entry

namespace Dispatcher

variable {d : Dispatcher}

theorem SettledBy.length_lt {bound : Nat} {data : Bytes} (h : d.SettledBy bound)
    (hout : d.outcome data = .undecided) : data.length < bound := by
  by_contra hlength
  obtain ⟨entry, hentry⟩ := h.decided data (Nat.not_lt.1 hlength)
  cases hout.symm.trans hentry

theorem exists_decided {data : Bytes} (h : ¬ d.registry.SomeWaits data) :
    ∃ entry, d.outcome data = .decided entry := by
  rcases d.registry.firstTaker_or_noTaker data with ⟨entry, hfirst⟩ | hnone
  · exact ⟨entry, outcome_of_firstTaker hfirst⟩
  · exact ⟨d.registry.last, outcome_of_noneWaits hnone h⟩

theorem settledBy {least : Nat} (hpos : 0 < least)
    (hhorizon : ∀ entry, d.registry.Probed entry → ∀ detector ∈ entry.detector,
      detector.horizon ≤ least) : d.SettledBy (max least d.registry.largestGate) where
  pos := Nat.lt_of_lt_of_le hpos (Nat.le_max_left _ _)
  decided := by
    intro data hlength
    refine exists_decided (Registry.not_someWaits_of_length (Nat.le_max_right _ _) ?_ hlength)
    intro entry hprobed detector hdetector
    exact Nat.le_trans (hhorizon entry hprobed detector hdetector) (Nat.le_max_left _ _)

end Dispatcher

/-! ## The connection -/

namespace Probing

variable {d : Dispatcher} {chunkSize bound : Nat} {s : Probing}

/-- A connection that is not bound holds fewer bytes than settle the question, and one that is bound
at most a chunk more. -/
structure Held (bound chunkSize : Nat) (s : Probing) : Prop where
  unbound : s.conn.bound = none → s.conn.deferred.length < bound
  all : s.conn.deferred.length ≤ bound - 1 + max chunkSize 1

theorem held_start (hpos : 0 < bound) (source : Source) : Held bound chunkSize (start source) where
  unbound _ := hpos
  all := Nat.zero_le _

theorem length_receive_lt {conn : Connection} {result : ReadResult} (hd : d.SettledBy bound)
    (hconn : conn.bound = none) (hfew : conn.deferred.length < bound)
    (hnone : (conn.receive d result).bound = none) :
    (conn.receive d result).deferred.length < bound := by
  rw [bound_receive hconn] at hnone
  rw [Connection.deferred_receive]
  cases result with
  | pending => rwa [ReadResult.data, List.append_nil]
  | failed reason => cases hnone
  | bytes data =>
    cases hout : d.outcome (conn.deferred ++ data) with
    | decided entry =>
      simp only [hout] at hnone
      cases hnone
    | undecided => exact hd.length_lt hout

theorem Held.step (hd : d.SettledBy bound) (h : Held bound chunkSize s) (move : Move) :
    Held bound chunkSize (s.step d chunkSize move) := by
  cases move with
  | arrive arrival => exact ⟨h.unbound, h.all⟩
  | timeOut =>
    refine ⟨fun hnone => ?_, ?_⟩
    · rw [timeOut_answer] at hnone
      cases hnone
    · exact (Connection.deferred_timeOut d s.conn).symm ▸ h.all
  | classify =>
    cases hs : s.conn.bound with
    | some entry =>
      rw [step_classify_of_bound hs]
      exact h
    | none =>
      have hfew := h.unbound hs
      rw [step_classify_of_unbound hs]
      refine ⟨fun hnone => length_receive_lt hd hs hfew hnone, ?_⟩
      -- One read adds at most the limit to what an open question has left.
      have hread := Source.length_data_read_le (Connection.readLimit chunkSize) s.source
      unfold Connection.readLimit at hread ⊢
      rw [Connection.deferred_receive, List.length_append]
      omega

theorem held_run (hd : d.SettledBy bound) (h : Held bound chunkSize s) (moves : List Move) :
    Held bound chunkSize (run d chunkSize s moves) := by
  induction moves generalizing s with
  | nil => exact h
  | cons move moves ih => exact ih (h.step hd move)

/-! ## Questions -/

theorem length_le_step (d : Dispatcher) (chunkSize : Nat) (s : Probing) (move : Move) :
    s.conn.deferred.length ≤ (step d chunkSize s move).conn.deferred.length := by
  cases move with
  | arrive arrival => exact Nat.le_refl _
  | timeOut => exact Nat.le_of_eq (congrArg List.length (Connection.deferred_timeOut d s.conn).symm)
  | classify =>
    obtain ⟨taken, -, hdeferred, -⟩ := step_classify_takes d chunkSize s
    rw [hdeferred, List.length_append]
    exact Nat.le_add_right _ _

/-- A read that gives something and does not bind gives a byte at least. -/
theorem length_lt_step (hs : s.conn.bound = none)
    (hread : (s.source.read (max chunkSize 1)).1 ≠ .pending)
    (hstep : (step d chunkSize s .classify).conn.bound = none) :
    s.conn.deferred.length < (step d chunkSize s .classify).conn.deferred.length := by
  rw [step_classify_of_unbound hs, Connection.readLimit] at hstep ⊢
  rw [Connection.deferred_receive, List.length_append]
  rw [bound_receive hs] at hstep
  cases hresult : (s.source.read (max chunkSize 1)).1 with
  | pending => exact absurd hresult hread
  | failed reason =>
    rw [hresult] at hstep
    cases hstep
  | bytes data =>
    have hdata : data ≠ [] := by
      rintro rfl
      rw [hresult] at hstep
      cases hout : d.outcome (s.conn.deferred ++ []) with
      | decided entry => simp only [hout, reduceCtorEq] at hstep
      | undecided => simp only [hout, List.isEmpty_nil, if_true, reduceCtorEq] at hstep
    exact Nat.lt_add_of_pos_right (List.length_pos_iff.2 hdata)

theorem classify_undecided (hs : s.conn.bound = none)
    (hread : (s.source.read (max chunkSize 1)).1 ≠ .pending)
    (hstep : (step d chunkSize s .classify).conn.bound = none) :
    (s.conn.classify d chunkSize s.source).1 = .undecided := by
  have hnone :
      (s.conn.receive d (s.source.read (Connection.readLimit chunkSize)).1).bound = none := by
    rwa [step_classify_of_unbound hs] at hstep
  rw [Connection.classify_of_unbound hs, Connection.statusAfter, hnone]
  exact if_neg hread

/-- While a connection is not bound, every read gives something: bytes, the end of the stream or a
failure. -/
def Prompt (d : Dispatcher) (chunkSize : Nat) (s : Probing) : Prop :=
  ∀ n, (run d chunkSize s (.replicate n .classify)).conn.bound = none →
    ((run d chunkSize s (.replicate n .classify)).source.read (max chunkSize 1)).1 ≠ .pending

theorem Prompt.step (h : Prompt d chunkSize s) :
    Prompt d chunkSize (s.step d chunkSize .classify) := fun n => h (n + 1)

theorem read_ofCut (limit : Nat) (pieces : List Bytes) : ∃ data pieces',
    (Source.ofCut pieces).read limit = (.bytes data, Source.ofCut pieces') := by
  cases pieces with
  | nil => exact ⟨[], [], rfl⟩
  | cons piece pieces =>
    by_cases hdrop : (piece.drop limit).isEmpty = true
    · exact ⟨piece.take limit, pieces, congrArg (_, ·) (if_pos hdrop)⟩
    · exact ⟨piece.take limit, piece.drop limit :: pieces, congrArg (_, ·) (if_neg hdrop)⟩

/-- A stream that ends always gives something. -/
theorem prompt_ofCut (conn : Connection) (pieces : List Bytes) :
    Prompt d chunkSize ⟨conn, .ofCut pieces⟩ := by
  intro n
  induction n generalizing conn pieces with
  | zero =>
    obtain ⟨data, pieces', hread⟩ := read_ofCut (max chunkSize 1) pieces
    show _ → ((Source.ofCut pieces).read (max chunkSize 1)).1 ≠ .pending
    rw [hread]
    nofun
  | succ n ih =>
    rw [List.replicate_succ, run, List.foldl_cons, ← run]
    cases hbound : conn.bound with
    | some entry =>
      rw [step_classify_of_bound hbound]
      exact ih conn pieces
    | none =>
      obtain ⟨data, pieces', hread⟩ := read_ofCut (Connection.readLimit chunkSize) pieces
      rw [step_classify_of_unbound hbound, hread]
      exact ih _ pieces'

/-- The loop comes to an entry by the time that it has read as many bytes as settle the question. -/
theorem exists_drives (hd : d.SettledBy bound) (hs : s.conn.bound = none)
    (hheld : Held bound chunkSize s) (hprompt : Prompt d chunkSize s) {n : Nat}
    (hn : bound ≤ s.conn.deferred.length + n) :
    ∃ m ≤ n, ∃ entry t, Drives d chunkSize m s entry t := by
  induction n generalizing s with
  | zero => exact absurd (hheld.unbound hs) (Nat.not_lt.2 hn)
  | succ n ih =>
    cases hstep : (step d chunkSize s .classify).conn.bound with
    | some entry =>
      have hanswer := (classify_answer d chunkSize s entry).2 hstep
      exact ⟨1, Nat.le_add_left 1 n, entry, _, .decided hanswer⟩
    | none =>
      have hread := hprompt 0 hs
      have hmore : s.conn.deferred.length < (step d chunkSize s .classify).conn.deferred.length :=
        length_lt_step hs hread hstep
      obtain ⟨m, hm, entry, t, hdrives⟩ :=
        ih hstep (hheld.step hd .classify) hprompt.step (by omega)
      have hanswer := classify_undecided hs hread hstep
      exact ⟨m + 1, Nat.succ_le_succ hm, entry, t, .undecided hanswer hdrives⟩

/-- The number of questions of a run that a read answers: something lies ready, and nothing is bound
yet. -/
def answered (d : Dispatcher) (chunkSize : Nat) : Probing → List Move → Nat
  | _, [] => 0
  | s, move :: moves =>
    (if move = .classify ∧ s.conn.bound = none ∧ (s.source.read (max chunkSize 1)).1 ≠ .pending
      then 1 else 0) + answered d chunkSize (step d chunkSize s move) moves

theorem answered_of_bound {entry : Entry} (hs : s.conn.bound = some entry) (moves : List Move) :
    answered d chunkSize s moves = 0 := by
  induction moves generalizing s with
  | nil => rfl
  | cons move moves ih =>
    have hno : ¬ (move = .classify ∧ s.conn.bound = none ∧
        (s.source.read (max chunkSize 1)).1 ≠ .pending) := by
      rw [hs]
      rintro ⟨-, hnone, -⟩
      cases hnone
    rw [answered, if_neg hno, ih (bound_step hs move)]

/-- Every answer but the last is paid for with a byte. -/
theorem length_add_answered_le (hd : d.SettledBy bound) (hs : s.conn.bound = none)
    (hheld : Held bound chunkSize s) (moves : List Move) :
    s.conn.deferred.length + answered d chunkSize s moves ≤ bound := by
  induction moves generalizing s with
  | nil => exact Nat.le_of_lt (hheld.unbound hs)
  | cons move moves ih =>
    have hfew := hheld.unbound hs
    rw [answered]
    cases hstep : (step d chunkSize s move).conn.bound with
    | some entry =>
      rw [answered_of_bound hstep]
      split_ifs <;> omega
    | none =>
      have hrest := ih hstep (hheld.step hd move)
      split_ifs with hanswered
      · obtain ⟨rfl, -, hread⟩ := hanswered
        have hmore := length_lt_step hs hread hstep
        omega
      · have hkept := length_le_step d chunkSize s move
        omega

/-! ## The end of probing -/

/-- So many bytes are enough for probing, whatever they are and however they come. -/
structure EndsWithin (d : Dispatcher) (chunkSize bound : Nat) : Prop where
  decided : ∀ data : Bytes, bound ≤ data.length → ∃ entry, d.outcome data = .decided entry
  /-- The loop comes to an end if there is always something to read. -/
  drives : ∀ source, Prompt d chunkSize (start source) →
    ∃ n ≤ bound, ∃ entry t, Drives d chunkSize n (start source) entry t
  /-- The client may go on sending while it is probed. -/
  answered : ∀ source moves, answered d chunkSize (start source) moves ≤ bound
  deferred : ∀ source moves,
    (run d chunkSize (start source) moves).conn.deferred.length ≤ bound - 1 + max chunkSize 1

/-- **However a stream that ends is cut, so many questions are enough.** -/
theorem EndsWithin.drives_ofCut (h : EndsWithin d chunkSize bound) (pieces : List Bytes) :
    ∃ n ≤ bound, ∃ entry t, Drives d chunkSize n (start (.ofCut pieces)) entry t :=
  h.drives _ (prompt_ofCut .fresh pieces)

theorem endsWithin (hd : d.SettledBy bound) (chunkSize : Nat) : EndsWithin d chunkSize bound where
  decided := hd.decided
  drives := by
    intro source hprompt
    exact exists_drives hd rfl (held_start hd.pos source) hprompt (Nat.le_add_left _ _)
  answered := by
    intro source moves
    have hheld : Held bound chunkSize (start source) := held_start hd.pos source
    have hle := length_add_answered_le hd rfl hheld moves
    exact Nat.le_trans (Nat.le_add_left _ _) hle
  deferred := fun source moves => (held_run hd (held_start hd.pos source) moves).all

/-- **Probing ends within a record, or the largest gate.** Where nobody compares names or protocols,
it ends much earlier. -/
theorem probing_ends (d : Dispatcher) (chunkSize : Nat) :
    EndsWithin d chunkSize (max 18437 d.registry.largestGate) ∧
      (¬ d.registry.ComparesNames → EndsWithin d chunkSize (max 54 d.registry.largestGate)) := by
  constructor
  · have hd : d.SettledBy (max 18437 d.registry.largestGate) :=
      Dispatcher.settledBy (by decide) fun _ _ detector _ => detector.horizon_le
    exact endsWithin hd chunkSize
  · intro hnames
    have hd : d.SettledBy (max 54 d.registry.largestGate) := by
      refine Dispatcher.settledBy (by decide) fun entry hprobed detector hdetector => ?_
      refine Detector.horizon_le_of_not_comparesNames fun hcompares => ?_
      exact hnames ⟨entry, hprobed, detector, hdetector, hcompares⟩
    exact endsWithin hd chunkSize

end Probing

end Switchboard
