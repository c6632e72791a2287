import Mathlib.Order.MinMax
import Switchboard.Proofs.Boundaries

/-!
# Detectors that do not wait

OpenVPN and patterns have a least number of bytes, two and none. On any stream with that many they
give their answer, and what they do not accept they reject, though some longer stream may be one of
theirs. Of patterns nothing is known but the streams that they are found in (`Impatient`).

**One chance** (`outcome_of_hasty`). Put such an entry in front of the catch-all. The question is
open on all streams that are too short for its gate or for its detector, and settled on all others,
one way or the other.

**Reads** (`bound_once_enough`). So the first read after which there are enough bytes binds the
connection, and the detector is right only if the client's packet happens to end where that read
does. What comes later is not looked at.
-/

namespace Switchboard

/-! ## Detectors -/

namespace Detector

/-- The detector answers on every stream with a least number of bytes, and accepts those of a
predicate. -/
inductive Impatient : Detector → Nat → (Bytes → Bool) → Prop
  /-- The first two bytes must be the number of those behind them. -/
  | openVpn : Impatient openVpn 2 fun data => data.length == 2 + Bytes.bigEndian (data.take 2)
  /-- Patterns are looked for in whatever there is. What they are found in can be any predicate. -/
  | pattern {set : Pattern.Set} {accepts : Bytes → Bool}
      (hfound : ∀ data, accepts data = true ↔ ∃ search ∈ set.searches, search data = true) :
      Impatient (pattern set) 0 accepts

/-- Every predicate of streams is that of a set of one search. -/
theorem Impatient.ofSearch (accepts : Pattern.Search) :
    (Detector.pattern ⟨[accepts]⟩).Impatient 0 accepts := by
  refine .pattern fun data => ?_
  simp only [List.mem_singleton, exists_eq_left]

theorem Impatient.verdict {detector : Detector} {least : Nat} {accepts : Bytes → Bool}
    (h : detector.Impatient least accepts) (data : Bytes) :
    detector.verdict data = if data.length < least then .wait else .ofBool (accepts data) := by
  cases h with
  | @pattern set _ hfound =>
    have hmatches : set.matchesIn data = accepts data := by
      rw [Bool.eq_iff_iff, hfound, Pattern.Set.matchesIn, List.any_eq_true]
    rw [if_neg (Nat.not_lt_zero _), ← hmatches]
    rfl
  | openVpn =>
    match data with
    | [] | [_] => rfl
    | high :: low :: packet =>
      have hlong : ¬ (high :: low :: packet).length < 2 := by simp
      rw [if_neg hlong]
      show Verdict.ofBool (Bytes.bigEndian [high, low] = packet.length) = _
      congr 1
      rw [Bool.eq_iff_iff, decide_eq_true_eq, beq_iff_eq]
      simp only [List.length_cons, List.take_succ_cons, List.take_zero]
      omega

end Detector

/-! ## Decisions -/

/-- An entry with such a detector, and the catch-all behind it. Enough bytes are as many as its gate
and its detector ask for. -/
structure Registry.Hasty (r : Registry) (entry : Entry) (enough : Nat) (accepts : Bytes → Bool) :
    Prop where
  entries : ∃ last, r.entries = [entry, last] ∧ last.isCatchAll = true
  detector : ∃ detector least, entry.detector = some detector ∧
    detector.Impatient least accepts ∧ enough = max entry.gate least

namespace Registry.Hasty

variable {r : Registry} {entry : Entry} {enough : Nat} {accepts : Bytes → Bool} {data : Bytes}

theorem asked_eq (h : r.Hasty entry enough accepts) : r.asked = [entry] := by
  obtain ⟨last, hentries, hcatch⟩ := h.entries
  have hparts : r.entries = [entry] ++ [last] := hentries
  exact (asked_of_catchAll hparts hcatch).2

theorem takes_iff (h : r.Hasty entry enough accepts) :
    entry.Takes data ↔ enough ≤ data.length ∧ accepts data = true := by
  obtain ⟨detector, least, hd, himpatient, rfl⟩ := h.detector
  rw [Entry.takes_iff hd, himpatient.verdict, Nat.max_le, and_assoc]
  refine and_congr_right fun _ => ?_
  by_cases hshort : data.length < least
  · rw [if_pos hshort]
    exact iff_of_false nofun fun hlong => Nat.not_lt.2 hlong.1 hshort
  · rw [if_neg hshort, Verdict.ofBool_eq_accept]
    exact (and_iff_right (Nat.not_lt.1 hshort)).symm

theorem waits_iff (h : r.Hasty entry enough accepts) :
    entry.Waits data ↔ data.length < enough := by
  obtain ⟨detector, least, hd, himpatient, rfl⟩ := h.detector
  rw [Entry.waits_iff hd, himpatient.verdict, lt_max_iff]
  refine or_congr_right ?_
  by_cases hshort : data.length < least
  · rw [if_pos hshort]
    exact iff_of_true rfl hshort
  · rw [if_neg hshort]
    exact iff_of_false (Verdict.ofBool_ne_wait _) hshort

theorem noTaker_iff (h : r.Hasty entry enough accepts) :
    r.NoTaker data ↔ ¬ (enough ≤ data.length ∧ accepts data = true) := by
  rw [Registry.noTaker_iff, h.asked_eq, List.forall_mem_singleton, h.takes_iff]

theorem someWaits_iff (h : r.Hasty entry enough accepts) :
    r.SomeWaits data ↔ data.length < enough := by
  obtain ⟨detector, -, hd, -⟩ := h.detector
  have hprobed : entry.detector ≠ none := by simp [hd]
  simp only [Registry.someWaits_iff, h.asked_eq, List.mem_singleton, exists_eq_left, hprobed,
    h.waits_iff, ne_eq, not_false_eq_true, true_and]

/-- Without a gate, OpenVPN asks for its length field and accepts what ends with the packet. -/
theorem openVpn (h : r.Hasty entry enough accepts) (hd : entry.detector = some .openVpn)
    (hgate : entry.minLength = none) :
    enough = 2 ∧ accepts = fun data => data.length == 2 + Bytes.bigEndian (data.take 2) := by
  obtain ⟨detector, least, hd', himpatient, rfl⟩ := h.detector
  obtain rfl : detector = .openVpn := Option.some.inj (hd'.symm.trans hd)
  cases himpatient
  simp [Entry.gate, hgate]

end Registry.Hasty

namespace Dispatcher

variable {d : Dispatcher} {entry : Entry} {enough : Nat} {accepts : Bytes → Bool}

/-- **One chance.** The question is open while there are not enough bytes, and settled from there
on. -/
theorem outcome_of_hasty (h : d.registry.Hasty entry enough accepts) (data : Bytes) :
    d.outcome data = if data.length < enough then .undecided
      else .decided (if accepts data then entry else d.registry.last) := by
  by_cases hshort : data.length < enough
  · rw [if_pos hshort]
    exact outcome_of_someWaits (h.noTaker_iff.2 fun htakes => Nat.not_lt.2 htakes.1 hshort)
      (h.someWaits_iff.2 hshort)
  · rw [if_neg hshort]
    by_cases haccepts : accepts data = true
    · have htakes : entry.Takes data := h.takes_iff.2 ⟨Nat.not_lt.1 hshort, haccepts⟩
      rw [if_pos haccepts]
      refine outcome_of_firstTaker (Registry.firstTaker_iff.2 ?_)
      rw [h.asked_eq]
      exact List.find?_cons_of_pos (decide_eq_true htakes)
    · rw [if_neg haccepts]
      exact outcome_of_noneWaits (h.noTaker_iff.2 fun htakes => haccepts htakes.2)
        (mt h.someWaits_iff.1 hshort)

end Dispatcher

/-! ## Reads -/

namespace Probing

def afterQuestions (d : Dispatcher) (chunkSize : Nat) (source : Source) (k : Nat) : Probing :=
  run d chunkSize (start source) (List.replicate k .classify)

/-- The connection is bound by the last of so many questions: none of those before binds it, and
nothing that happens afterwards changes what it is bound to. -/
structure BoundAt (d : Dispatcher) (chunkSize : Nat) (source : Source) (k : Nat) (entry : Entry) :
    Prop where
  unbound : ∀ j < k, (afterQuestions d chunkSize source j).conn.bound = none
  final : ∀ moves,
    (run d chunkSize (afterQuestions d chunkSize source k) moves).conn.bound = some entry

/-- The first question, and so the first read, after which at least so many bytes are deferred. -/
def FirstEnough (d : Dispatcher) (chunkSize : Nat) (source : Source) (enough k : Nat) : Prop :=
  IsLeast {k | 0 < k ∧ enough ≤ (afterQuestions d chunkSize source k).conn.deferred.length} k

variable {d : Dispatcher} {chunkSize n k enough : Nat} {entry : Entry} {source : Source}
  {t : Probing}

theorem Drives.boundAt (h : Drives d chunkSize n (start source) entry t) :
    BoundAt d chunkSize source n entry where
  unbound := fun _ hj => (h.undecided_before rfl hj).1
  final := by
    intro moves
    rw [afterQuestions, ← h.eq_run]
    exact bound_run h.bound d chunkSize moves

/-- While nothing is bound, questions take what reads give. -/
theorem deferred_of_unbound {s : Probing}
    (h : ∀ j < k, (run d chunkSize s (List.replicate j .classify)).conn.bound = none) :
    (run d chunkSize s (List.replicate k .classify)).conn.deferred =
      s.conn.deferred ++ s.source.taken (max chunkSize 1) k := by
  induction k generalizing s with
  | zero => exact (List.append_nil _).symm
  | succ k ih =>
    have hs : s.conn.bound = none := h 0 (Nat.succ_pos k)
    have hlater : ∀ j < k, (run d chunkSize (step d chunkSize s .classify)
        (List.replicate j .classify)).conn.bound = none :=
      fun j hj => h (j + 1) (Nat.succ_lt_succ hj)
    rw [List.replicate_succ, run, List.foldl_cons, ← run, ih hlater, step_classify_of_unbound hs,
      Connection.deferred_receive, Source.taken, List.append_assoc]
    rfl

theorem BoundAt.deferred_eq {j : Nat} (h : BoundAt d chunkSize source k entry) (hj : j ≤ k) :
    (afterQuestions d chunkSize source j).conn.deferred = source.taken (max chunkSize 1) j :=
  deferred_of_unbound fun i hi => h.unbound i (Nat.lt_of_lt_of_le hi hj)

/-- The first read after which there are enough bytes ends at the first boundary that is not below
that number. -/
theorem FirstEnough.length_eq {first : Nat} (h : FirstEnough d chunkSize source enough k)
    (hbound : BoundAt d chunkSize source k entry) (hpos : 0 < enough)
    (hfirst : source.FirstEnd (max chunkSize 1) enough first) :
    (afterQuestions d chunkSize source k).conn.deferred.length = first := by
  apply Nat.le_antisymm
  · obtain ⟨⟨j, rfl⟩, henough⟩ := hfirst.1
    have hkj : k ≤ j := by
      by_contra hlt
      have hj := hbound.deferred_eq (Nat.le_of_not_le hlt)
      cases j with
      | zero => exact absurd henough (Nat.not_le.2 hpos)
      | succ j => exact hlt (h.2 ⟨Nat.succ_pos j, by rwa [hj]⟩)
    rw [hbound.deferred_eq (Nat.le_refl k)]
    exact (Source.taken_mono hkj source).length_le
  · refine hfirst.2 ⟨⟨k, ?_⟩, h.1.2⟩
    rw [hbound.deferred_eq (Nat.le_refl k)]

variable {accepts : Bytes → Bool} {stream : Bytes} {pieces : List Bytes}

theorem Drives.firstEnough (h : Drives d chunkSize n (start source) entry t)
    {hasty : Entry} (hhasty : d.registry.Hasty hasty enough accepts)
    (henough : enough ≤ t.conn.deferred.length) : FirstEnough d chunkSize source enough n := by
  refine ⟨⟨h.pos, ?_⟩, ?_⟩
  · rwa [afterQuestions, ← h.eq_run]
  · rintro k ⟨hpos, hk⟩
    by_contra hlt
    have hopen : d.outcome (afterQuestions d chunkSize source k).conn.deferred = .undecided :=
      (h.undecided_before rfl (Nat.not_le.1 hlt)).2 hpos
    rw [Dispatcher.outcome_of_hasty hhasty, if_neg (Nat.not_lt.2 hk)] at hopen
    cases hopen

/-- The loop ends with enough bytes, or at the end of a stream that has not so many. -/
theorem exists_drives_of_hasty (h : d.registry.Hasty entry enough accepts)
    (hcut : IsCut stream pieces) (chunkSize : Nat) :
    ∃ n reached t, Drives d chunkSize n (start (.ofCut pieces)) reached t ∧
      t.conn.deferred <+: stream ∧
      (enough ≤ t.conn.deferred.length ∧
          reached = (if accepts t.conn.deferred then entry else d.registry.last) ∨
        t.conn.deferred = stream ∧ stream.length < enough ∧ reached = d.registry.last) := by
  obtain ⟨n, reached, t, hdrives, hend⟩ :=
    exists_drives_of_cut d chunkSize (s := start (.ofCut pieces)) rfl rfl hcut
  have hall : (start (.ofCut pieces)).conn.deferred ++ stream = stream := rfl
  rw [Concludes, hall] at hend
  refine ⟨n, reached, t, hdrives, ?_⟩
  -- The drive ends because an outcome was reached, or because the stream was exhausted.
  rcases hend with ⟨hcut, hout⟩ | ⟨hwhole, hout, hlast⟩
  · rw [Dispatcher.outcome_of_hasty h] at hout
    by_cases hshort : t.conn.deferred.length < enough
    · rw [if_pos hshort] at hout
      cases hout
    · rw [if_neg hshort] at hout
      exact ⟨hcut, .inl ⟨Nat.not_lt.1 hshort, (Outcome.decided.inj hout).symm⟩⟩
  · rw [Dispatcher.outcome_of_hasty h] at hout
    by_cases hshort : stream.length < enough
    · exact ⟨hwhole ▸ List.prefix_refl _, .inr ⟨hwhole, hshort, hlast⟩⟩
    · rw [if_neg hshort] at hout
      cases hout

/-- An OpenVPN entry without a gate loses its client where the first boundary at two bytes or more
is not the end of the client's first packet. -/
theorem boundAt_last_of_openVpn (h : d.registry.Hasty entry enough accepts)
    (hd : entry.detector = some .openVpn) (hgate : entry.minLength = none)
    (hcut : IsCut stream pieces) {first : Nat}
    (hfirst : (Source.ofCut pieces).FirstEnd (max chunkSize 1) 2 first)
    (hpacket : first ≠ 2 + Bytes.bigEndian (stream.take 2)) :
    ∃ k, BoundAt d chunkSize (.ofCut pieces) k d.registry.last := by
  obtain ⟨rfl, rfl⟩ := h.openVpn hd hgate
  obtain ⟨n, reached, t, hdrives, hprefix, hend⟩ := exists_drives_of_hasty h hcut chunkSize
  have hbound := hdrives.boundAt
  rcases hend with ⟨hlong, rfl⟩ | ⟨-, -, rfl⟩
  · -- The read that is judged ends at the first boundary.
    have hlength : t.conn.deferred.length = first := by
      rw [hdrives.eq_run]
      exact (hdrives.firstEnough h hlong).length_eq hbound Nat.two_pos hfirst
    have hopening : t.conn.deferred.take 2 = stream.take 2 := by
      obtain ⟨more, rfl⟩ := hprefix
      exact (List.take_append_of_le_length hlong).symm
    have hrejects : ¬ (t.conn.deferred.length == 2 + Bytes.bigEndian (t.conn.deferred.take 2))
        = true := by
      rw [beq_iff_eq, hlength, hopening]
      exact hpacket
    rw [if_neg hrejects] at hbound
    exact ⟨n, hbound⟩
  · exact ⟨n, hbound⟩

/-- **An impatient detector gets one chance.** It judges what is deferred after the first read that
brings enough bytes, and no other read; what comes afterwards changes nothing. A stream that ends
before goes to the last entry. So an ungated OpenVPN entry loses its client wherever the first
boundary at two bytes or more is not the end of the client's first packet. -/
theorem bound_once_enough (h : d.registry.Hasty entry enough accepts) (hcut : IsCut stream pieces)
    (chunkSize : Nat) :
    let source : Source := .ofCut pieces
    (enough ≤ stream.length → ∃ k, FirstEnough d chunkSize source enough k ∧
      BoundAt d chunkSize source k
        (if accepts (afterQuestions d chunkSize source k).conn.deferred then entry
          else d.registry.last)) ∧
    (stream.length < enough → ∃ k, BoundAt d chunkSize source k d.registry.last ∧
      (afterQuestions d chunkSize source k).conn.deferred = stream) ∧
    (entry.detector = some .openVpn → entry.minLength = none →
      ∀ first, source.FirstEnd (max chunkSize 1) 2 first →
        first ≠ 2 + Bytes.bigEndian (stream.take 2) →
          ∃ k, BoundAt d chunkSize source k d.registry.last) := by
  intro source
  -- One drive serves both cases: it stops at the first boundary with enough bytes, or at the end.
  obtain ⟨n, reached, t, hdrives, hprefix, hend⟩ := exists_drives_of_hasty h hcut chunkSize
  have hbound := hdrives.boundAt
  have ht : t = afterQuestions d chunkSize source n := hdrives.eq_run
  refine ⟨fun hlong => ?_, fun hshort => ?_, fun hd hgate first hfirst hpacket => ?_⟩
  · rcases hend with ⟨henough, rfl⟩ | ⟨-, hshort, -⟩
    · exact ⟨n, hdrives.firstEnough h henough, ht ▸ hbound⟩
    · exact absurd hlong (Nat.not_le.2 hshort)
  · rcases hend with ⟨henough, -⟩ | ⟨hwhole, -, rfl⟩
    · exact absurd (Nat.le_trans henough hprefix.length_le) (Nat.not_le.2 hshort)
    · exact ⟨n, hbound, ht ▸ hwhole⟩
  · exact boundAt_last_of_openVpn h hd hgate hcut hfirst hpacket

end Probing

/-! ## One packet, two cuts -/

/-- An entry with a detector and perhaps a gate, before the catch-all. -/
def Registry.withFirst (detector : Detector) (gate : Option UInt64) : Registry where
  entries :=
    [{ Entry.plain "first" (some detector) with minLength := gate }, .plain Route.catchAllName none]
  ne_nil := List.cons_ne_nil _ _
  nodup := by simp [Entry.plain, Route.catchAllName]

theorem Registry.hasty_withFirst {detector : Detector} {least : Nat} {accepts : Bytes → Bool}
    (gate : Option UInt64) (h : detector.Impatient least accepts) :
    (withFirst detector gate).Hasty
      { Entry.plain "first" (some detector) with minLength := gate }
      (max (gate.elim 0 UInt64.toNat) least) accepts := by
  refine ⟨⟨_, rfl, rfl⟩, detector, least, rfl, h, ?_⟩
  cases gate <;> rfl

/-- With OpenVPN, the client keeps its entry if the second read ends where the packet does, and
loses it one byte earlier. With patterns and a gate of two bytes, the two bytes are judged that are
there after the second read: a predicate of the third byte comes too late. -/
theorem Probing.bound_once_enough_vpn :
    (let d : Dispatcher := ⟨.withFirst .openVpn none, "ssh", 0⟩
     (∃ k, BoundAt d 4096 (.ofCut [[0], [3, 1, 2, 3], [9]]) k d.registry.first) ∧
       ∃ k, BoundAt d 4096 (.ofCut [[0], [3, 1, 2], [3, 9]]) k d.registry.last) ∧
    (let d : Dispatcher := ⟨.withFirst (.pattern ⟨[(· == [71, 69])]⟩) (some 2), "ssh", 0⟩
     BoundAt d 4096 (.ofCut [[71], [69], [84]]) 2 d.registry.first) ∧
    let d : Dispatcher := ⟨.withFirst (.pattern ⟨[(· == [71, 69, 84])]⟩) (some 2), "ssh", 0⟩
    BoundAt d 4096 (.ofCut [[71], [69], [84]]) 2 d.registry.last := by
  constructor
  · intro d
    let stream : Bytes := [0, 3, 1, 2, 3, 9]
    have hhasty : d.registry.Hasty (.plain "first" (some .openVpn)) 2
        fun data => data.length == 2 + Bytes.bigEndian (data.take 2) :=
      Registry.hasty_withFirst none .openVpn
    have hwhole : IsCut stream [[0], [3, 1, 2, 3], [9]] := ⟨rfl, by decide⟩
    have hsplit : IsCut stream [[0], [3, 1, 2], [3, 9]] := ⟨rfl, by decide⟩
    constructor
    · obtain ⟨k, hk, hbound⟩ := (bound_once_enough hhasty hwhole 4096).1 (by decide)
      have hpos : 0 < k := hk.1.1
      have hle : k ≤ 2 := hk.2 ⟨by decide, by decide⟩
      by_cases hfirst : k = 1
      · subst hfirst
        exact absurd hk.1.2 (by decide)
      · obtain rfl : k = 2 := by omega
        exact ⟨2, hbound⟩
    · refine (bound_once_enough hhasty hsplit 4096).2.2 rfl rfl 4 ⟨⟨⟨2, by decide⟩, by decide⟩, ?_⟩
        (by decide)
      rintro m ⟨⟨k, rfl⟩, hfloor⟩
      match k with
      | 0 | 1 => exact absurd hfloor (by decide)
      | k + 2 =>
        let source : Source := .ofCut [[0], [3, 1, 2], [3, 9]]
        have hmono : source.taken 4096 2 <+: source.taken 4096 (k + 2) :=
          Source.taken_mono (Nat.le_add_left 2 k) source
        exact hmono.length_le
  · have hcut : IsCut [71, 69, 84] [[71], [69], [84]] := ⟨rfl, by decide⟩
    have hsecond : ∀ accepts : Pattern.Search,
        let d : Dispatcher := ⟨.withFirst (.pattern ⟨[accepts]⟩) (some 2), "ssh", 0⟩
        BoundAt d 4096 (.ofCut [[71], [69], [84]]) 2
          (if accepts [71, 69] then d.registry.first else d.registry.last) := by
      intro accepts d
      have hhasty := Registry.hasty_withFirst (some 2) (Detector.Impatient.ofSearch accepts)
      obtain ⟨k, hk, hbound⟩ := (bound_once_enough (d := d) hhasty hcut 4096).1 (by decide)
      have hdeferred := fun {j} (hj : j ≤ k) => hbound.deferred_eq hj
      have hpos : 0 < k := hk.1.1
      -- After one question there is one byte, which is too few, and after two there are two.
      have hne : k ≠ 1 := by
        rintro rfl
        have henough := hk.1.2
        rw [hdeferred (Nat.le_refl 1)] at henough
        exact absurd henough (by decide)
      have hle : k ≤ 2 := by
        by_contra hlt
        refine hlt (hk.2 ⟨Nat.two_pos, ?_⟩)
        rw [hdeferred (Nat.le_of_not_le hlt)]
        decide
      obtain rfl : k = 2 := by omega
      rw [hdeferred (Nat.le_refl 2)] at hbound
      exact hbound
    exact ⟨hsecond (· == [71, 69]), hsecond (· == [71, 69, 84])⟩

end Switchboard
