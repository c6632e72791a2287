import Mathlib.Data.List.Pairwise
import Switchboard.Proofs.Driving
import Switchboard.Proofs.Finality

/-!
# Where a stream belongs

In an *exclusive* registry the last entry is the catch-all, and the detectors before it are of kinds
that are final and accept no stream in common, each kind at most once. There a whole stream has one
*destination*: the entry that takes it, or the last one.

**Early decisions.** An entry that takes the beginning of a stream takes the stream, and one that
neither takes nor waits never will. So a decision made early is the decision on the whole stream
(`isDestination_of_decided`), and neither the cut nor the order of the entries shows in it.

Main result: `routes_stable`.
-/

namespace Switchboard

/-! ## Longer streams -/

namespace Entry

variable {entry : Entry} {data : Bytes}

/-- The detector of the entry, if it has one, is final. -/
def Final (entry : Entry) : Prop := ∀ detector ∈ entry.detector, detector.Final

theorem Takes.exists_detector (h : entry.Takes data) :
    ∃ detector ∈ entry.detector, detector.verdict data = .accept :=
  Option.map_eq_some_iff.1 h.2

/-- What takes a stream takes every longer one. -/
theorem Takes.append (h : entry.Takes data) (hfinal : entry.Final) (more : Bytes) :
    entry.Takes (data ++ more) := by
  obtain ⟨detector, hd, haccept⟩ := h.exists_detector
  refine ⟨h.1.append more, Option.map_eq_some_iff.2 ⟨detector, hd, ?_⟩⟩
  rw [hfinal detector hd data more (by simp [haccept]), haccept]

/-- What neither takes a stream nor waits takes no longer one. -/
theorem not_takes_append (hfinal : entry.Final) (htakes : ¬ entry.Takes data)
    (hwaits : ¬ entry.Waits data) (more : Bytes) : ¬ entry.Takes (data ++ more) := by
  intro h
  obtain ⟨detector, hd, haccept⟩ := h.exists_detector
  have hopen : entry.GateOpen data := not_not.1 fun hg => hwaits (.inl hg)
  have hverdict : entry.verdict? data = some (detector.verdict data) := by
    rw [verdict?, Option.mem_def.1 hd, Option.map_some]
  have hwait : detector.verdict data ≠ .wait := fun hw =>
    hwaits (.inr ⟨hopen, hw ▸ hverdict⟩)
  rw [hfinal detector hd data more hwait] at haccept
  exact htakes ⟨hopen, haccept ▸ hverdict⟩

end Entry

/-! ## Exclusive registries -/

namespace Registry

/-- The last entry is the catch-all, and the detectors before it are of distinct kinds. -/
structure Exclusive (r : Registry) : Prop where
  catchAll : r.last.isCatchAll = true
  kinds : ∀ entry ∈ r.entries.dropLast, ∀ detector ∈ entry.detector,
    detector.kind ∈ Kind.distinct
  nodup : (r.entries.dropLast.filterMap fun entry => entry.detector.map Detector.kind).Nodup

/-- Where a whole stream belongs: to an entry that takes it, or to the last one. -/
def IsDestination (r : Registry) (stream : Bytes) (entry : Entry) : Prop :=
  entry ∈ r.entries.dropLast ∧ entry.Takes stream ∨
    entry = r.last ∧ ∀ other ∈ r.entries.dropLast, ¬ other.Takes stream

namespace Exclusive

variable {r : Registry} {entry other : Entry} {data : Bytes}

theorem mem_asked_iff (h : r.Exclusive) : entry ∈ r.asked ↔ entry ∈ r.entries.dropLast := by
  rw [asked, if_pos h.catchAll]

theorem final (h : r.Exclusive) (he : entry ∈ r.entries.dropLast) : entry.Final :=
  fun detector hd => Detector.final_of_mem_distinct (h.kinds entry he detector hd)

/-- Two entries with detectors of one kind are the same. -/
theorem eq_of_kind_eq (h : r.Exclusive) (he : entry ∈ r.entries.dropLast)
    (ho : other ∈ r.entries.dropLast) {detector detector' : Detector}
    (hd : detector ∈ entry.detector) (hd' : detector' ∈ other.detector)
    (hkind : detector.kind = detector'.kind) : entry = other := by
  by_contra hne
  have hsymm : Std.Symm fun a b : Entry =>
      ∀ k, a.detector.map Detector.kind = some k →
        ∀ k', b.detector.map Detector.kind = some k' → k ≠ k' :=
    ⟨fun _ _ hab k hk k' hk' => (hab k' hk' k hk).symm⟩
  have hpairs := (List.pairwise_filterMap.1 h.nodup).forall he ho hne
  exact hpairs _ (Option.map_eq_some_iff.2 ⟨_, hd, rfl⟩) _
    (Option.map_eq_some_iff.2 ⟨_, hd', rfl⟩) hkind

/-- At most one entry takes a stream. -/
theorem eq_of_takes (h : r.Exclusive) (he : entry ∈ r.entries.dropLast)
    (ho : other ∈ r.entries.dropLast) (ht : entry.Takes data) (ht' : other.Takes data) :
    entry = other := by
  obtain ⟨detector, hd, haccept⟩ := ht.exists_detector
  obtain ⟨detector', hd', haccept'⟩ := ht'.exists_detector
  exact h.eq_of_kind_eq he ho hd hd' (Detector.kind_eq_of_accept (h.kinds entry he detector hd)
    (h.kinds other ho detector' hd') haccept haccept')

/-- **A stream has at most one destination.** -/
theorem eq_of_isDestination (h : r.Exclusive) (he : r.IsDestination data entry)
    (ho : r.IsDestination data other) : entry = other := by
  rcases he with ⟨he, ht⟩ | ⟨rfl, hnone⟩ <;> rcases ho with ⟨ho, ht'⟩ | ⟨rfl, hnone'⟩
  · exact h.eq_of_takes he ho ht ht'
  · exact absurd ht (hnone' entry he)
  · exact absurd ht' (hnone other ho)
  · rfl

theorem of_perm {r' : Registry} (h : r.Exclusive) (hlast : r'.last = r.last)
    (hperm : r'.entries.dropLast.Perm r.entries.dropLast) : r'.Exclusive where
  catchAll := hlast ▸ h.catchAll
  kinds entry he := h.kinds entry (hperm.mem_iff.1 he)
  nodup := (hperm.filterMap _).nodup_iff.2 h.nodup

end Exclusive

theorem isDestination_of_perm {r r' : Registry} (hlast : r'.last = r.last)
    (hperm : r'.entries.dropLast.Perm r.entries.dropLast) (stream : Bytes) (entry : Entry) :
    r'.IsDestination stream entry ↔ r.IsDestination stream entry := by
  simp only [IsDestination, hlast, hperm.mem_iff]

end Registry

/-! ## Decisions -/

namespace Dispatcher

variable {d : Dispatcher} {data : Bytes} {entry : Entry}

/-- **A decision on the beginning of a stream is right for the stream.** -/
theorem isDestination_of_decided (hex : d.registry.Exclusive)
    (h : d.outcome data = .decided entry) (more : Bytes) :
    d.registry.IsDestination (data ++ more) entry := by
  rcases outcome_eq_decided.1 h with hfirst | ⟨hnone, hwaits, rfl⟩
  · obtain ⟨hprobed, htakes⟩ := hfirst.mem
    have hmem := hex.mem_asked_iff.1 (Registry.probed_iff.1 hprobed).1
    exact .inl ⟨hmem, htakes.append (hex.final hmem) more⟩
  · refine .inr ⟨rfl, fun other ho ht => ?_⟩
    -- The entry has a detector, so it was probed, and it did not wait.
    have hprobed : d.registry.Probed other :=
      Registry.probed_iff.2 ⟨hex.mem_asked_iff.2 ho, ht.detector_ne_none⟩
    exact Entry.not_takes_append (hex.final ho) (hnone other hprobed)
      (fun hw => hwaits ⟨other, hprobed, hw⟩) more ht

/-- A stream that ends with the question open belongs to the last entry. -/
theorem isDestination_of_undecided (hex : d.registry.Exclusive)
    (h : d.outcome data = .undecided) : d.registry.IsDestination data d.registry.last := by
  refine .inr ⟨rfl, fun other ho ht => ?_⟩
  exact (outcome_eq_undecided.1 h).1 other
    (Registry.probed_iff.2 ⟨hex.mem_asked_iff.2 ho, ht.detector_ne_none⟩) ht

end Dispatcher

/-! ## Routing -/

namespace Probing

variable {d : Dispatcher} {chunkSize : Nat} {stream : Bytes} {pieces : List Bytes} {entry : Entry}

theorem Reached.isDestination (h : Reached d stream entry) (hex : d.registry.Exclusive) :
    d.registry.IsDestination stream entry := by
  rcases h with ⟨data, more, rfl, hout⟩ | ⟨hout, rfl⟩
  · exact Dispatcher.isDestination_of_decided hex hout more
  · exact Dispatcher.isDestination_of_undecided hex hout

/-- A fresh connection to a stream that comes in pieces is asked until there is an answer, and these
questions bind it to an entry. -/
def Routes (d : Dispatcher) (chunkSize : Nat) (pieces : List Bytes) (entry : Entry) : Prop :=
  ∃ n t, Drives d chunkSize n (start (.ofCut pieces)) entry t ∧
    t = run d chunkSize (start (.ofCut pieces)) (List.replicate n .classify) ∧
    t.conn.bound = some entry

theorem Routes.unique {other : Entry} (h : Routes d chunkSize pieces entry)
    (h' : Routes d chunkSize pieces other) : entry = other := by
  obtain ⟨_, _, hdrives, -⟩ := h
  obtain ⟨_, _, hdrives', -⟩ := h'
  exact hdrives.unique hdrives'

theorem exists_routes (hcut : IsCut stream pieces) (d : Dispatcher) (chunkSize : Nat) :
    ∃ entry, Routes d chunkSize pieces entry ∧ Reached d stream entry := by
  obtain ⟨n, entry, t, hdrives, hend⟩ :=
    exists_drives_of_cut d chunkSize (s := start (.ofCut pieces)) rfl rfl hcut
  exact ⟨entry, ⟨n, t, hdrives, hdrives.eq_run, hdrives.bound⟩, hend.reached⟩

/-- In an exclusive registry every stream is routed to its destination, however it is cut. -/
theorem routes_iff_isDestination (hex : d.registry.Exclusive) (hcut : IsCut stream pieces)
    (chunkSize : Nat) (entry : Entry) :
    Routes d chunkSize pieces entry ↔ d.registry.IsDestination stream entry := by
  obtain ⟨reached, hroutes, hreached⟩ := exists_routes hcut d chunkSize
  have hdest := hreached.isDestination hex
  constructor
  · intro h
    exact hroutes.unique h ▸ hdest
  · intro h
    exact hex.eq_of_isDestination hdest h ▸ hroutes

/-- **Neither the cut nor the order of the entries changes where a stream goes.** -/
theorem routes_stable {other : Dispatcher} (hex : d.registry.Exclusive)
    (hlast : other.registry.last = d.registry.last)
    (hperm : other.registry.entries.dropLast.Perm d.registry.entries.dropLast)
    {cut cut' : List Bytes} (hcut : IsCut stream cut) (hcut' : IsCut stream cut')
    (chunkSize chunkSize' : Nat) :
    ∃ entry, (∀ e, d.registry.IsDestination stream e ↔ e = entry) ∧
      (∀ e, Routes d chunkSize cut e ↔ e = entry) ∧
      ∀ e, Routes other chunkSize' cut' e ↔ e = entry := by
  obtain ⟨entry, -, hreached⟩ := exists_routes hcut d chunkSize
  have hdest := hreached.isDestination hex
  have honly : ∀ e, d.registry.IsDestination stream e ↔ e = entry := fun e =>
    ⟨fun h => hex.eq_of_isDestination h hdest, fun h => h ▸ hdest⟩
  refine ⟨entry, honly, fun e => ?_, fun e => ?_⟩
  · rw [routes_iff_isDestination hex hcut, honly]
  · rw [routes_iff_isDestination (hex.of_perm hlast hperm) hcut',
      Registry.isDestination_of_perm hlast hperm, honly]

end Probing

/-! ## An exclusive registry -/

/-- An entry behind a gate. -/
def Entry.gatedSsh : Entry := { plain "ssh" (some .ssh) with minLength := some 6 }

/-- Two detectors of distinct kinds before the catch-all. -/
def Registry.sshFirst : Registry where
  entries := [.gatedSsh, .plain "socks" (some .socks5), .plain Route.catchAllName none]
  ne_nil := by decide
  nodup := by decide

/-- The same two the other way round. -/
def Registry.sshSecond : Registry where
  entries := [.plain "socks" (some .socks5), .gatedSsh, .plain Route.catchAllName none]
  ne_nil := by decide
  nodup := by decide

theorem Probing.routes_stable_ssh :
    Routes ⟨.sshFirst, "socks", 0⟩ 2 [[0x53, 0x53, 0x48, 0x2d, 0x32], [0x2e, 0x30]] .gatedSsh ∧
      Routes ⟨.sshSecond, "ssh", 0⟩ 0 [[0x53], [0x53, 0x48, 0x2d, 0x32, 0x2e, 0x30]] .gatedSsh := by
  let d : Dispatcher := ⟨.sshFirst, "socks", 0⟩
  let other : Dispatcher := ⟨.sshSecond, "ssh", 0⟩
  let stream : Bytes := [0x53, 0x53, 0x48, 0x2d, 0x32, 0x2e, 0x30]
  have hex : d.registry.Exclusive := ⟨by decide, by decide, by decide⟩
  have hlast : other.registry.last = d.registry.last := rfl
  have hperm : other.registry.entries.dropLast.Perm d.registry.entries.dropLast := by
    show [Entry.plain "socks" (some .socks5), .gatedSsh].Perm [.gatedSsh, .plain "socks" _]
    exact .swap _ _ _
  have hcut : IsCut stream [[0x53, 0x53, 0x48, 0x2d, 0x32], [0x2e, 0x30]] := ⟨rfl, by decide⟩
  have hcut' : IsCut stream [[0x53], [0x53, 0x48, 0x2d, 0x32, 0x2e, 0x30]] := ⟨rfl, by decide⟩
  have hdest : d.registry.IsDestination stream .gatedSsh := .inl ⟨List.mem_cons_self, by decide⟩
  obtain ⟨entry, honly, hroutes, hroutes'⟩ := routes_stable hex hlast hperm hcut hcut' 2 0
  obtain rfl := (honly _).1 hdest
  exact ⟨(hroutes _).2 rfl, (hroutes' _).2 rfl⟩

end Switchboard
