import Switchboard.Proofs.Boundaries
import Switchboard.Proofs.Criteria

/-!
# A narrow TLS entry before a wide one

A table may try a TLS entry with criteria first, then one without, and last the catch-all. The wide
entry is content with the header of a record, and the narrow one waits for all of it. So where a
read ends behind the header but within the record, the wide entry takes the connection before the
narrow one can tell, whatever the record says.

**What is seen** (`OpensWithRecord.inspect_take`). A beginning of the stream shows one of three
things: less than the header, the header and not all of the record, or the whole record.

**Where reads end.** The question is open below the five bytes of the header and settled from there
on, so the first boundary at five bytes or more decides.

Main result: `routes_iff_boundary`.
-/

namespace Switchboard

/-! ## A record at the beginning of a stream -/

namespace Tls

/-- A stream begins with a handshake record, whose header announces just these bytes behind it.
Anything may follow. -/
structure OpensWithRecord (stream record : Bytes) : Prop where
  pos : 1 ≤ record.length
  fits : record.length ≤ maxRecord
  opens : ∃ major minor high low tail, 3 ≤ major ∧ Bytes.bigEndian [high, low] = record.length ∧
    stream = handshakeType :: major :: minor :: high :: low :: (record ++ tail)

/-- The ClientHello of a record can be read, and what it offers satisfies the criteria. -/
def Criteria.Satisfied (criteria : Criteria) (record : Bytes) : Prop :=
  ∃ offer, offer? record = some offer ∧ criteria.accepts offer = true

variable {stream record : Bytes} {criteria : Criteria}

theorem OpensWithRecord.append (h : OpensWithRecord stream record) (more : Bytes) :
    OpensWithRecord (stream ++ more) record := by
  obtain ⟨major, minor, high, low, tail, hmajor, hlength, rfl⟩ := h.opens
  refine ⟨h.pos, h.fits, major, minor, high, low, tail ++ more, hmajor, hlength, ?_⟩
  simp only [List.cons_append, List.append_assoc]

theorem OpensWithRecord.length_le (h : OpensWithRecord stream record) :
    recordHeader + record.length ≤ stream.length := by
  obtain ⟨major, minor, high, low, tail, -, -, rfl⟩ := h.opens
  simp only [List.length_cons, List.length_append, recordHeader]
  omega

theorem Criteria.verdict_inspectRecord (criteria : Criteria) (record : Bytes) :
    (criteria.inspectRecord record).verdict = .accept ↔ criteria.Satisfied record := by
  unfold inspectRecord Satisfied
  cases offer? record with
  | none => simp [Inspection.verdict]
  | some offer => cases h : criteria.accepts offer <;> simp [Inspection.verdict, h]

/-- What is shown by the header and as many bytes behind it as have come. -/
theorem OpensWithRecord.inspect_take (h : OpensWithRecord stream record) {m : Nat}
    (hm : recordHeader ≤ m) : criteria.inspect (stream.take m) =
      if criteria.isEmpty then .header
      else if m < recordHeader + record.length then .shortRecord
      else criteria.inspectRecord record := by
  obtain ⟨major, minor, high, low, tail, hmajor, hlength, rfl⟩ := h.opens
  obtain ⟨k, rfl⟩ : ∃ k, m = k + 5 := ⟨m - 5, (Nat.sub_add_cancel hm).symm⟩
  have hold : ¬ major < 3 := UInt8.not_lt.2 hmajor
  have hbad : ¬ (record.length = 0 ∨ maxRecord < record.length) :=
    not_or.2 ⟨Nat.ne_of_gt h.pos, Nat.not_lt.2 h.fits⟩
  have hshort : ((record ++ tail).take k).length < record.length ↔
      k + 5 < recordHeader + record.length := by
    rw [List.length_take, List.length_append, recordHeader]
    omega
  simp only [List.take_succ_cons, Criteria.inspect, hlength]
  rw [if_neg (not_not.2 rfl), if_neg hold, if_neg hbad]
  -- With the header good, only the announced length is left to compare.
  refine ite_congr rfl (fun _ => rfl) fun _ => ?_
  by_cases hk : k + 5 < recordHeader + record.length
  · rw [if_pos hk, if_pos (hshort.2 hk)]
  · have hall : record.length ≤ k := by
      unfold recordHeader at hk
      omega
    rw [if_neg hk, if_neg (mt hshort.1 hk), List.take_take, Nat.min_eq_left hall, List.take_left]

theorem verdict_inspect_of_short {data : Bytes} (h : data.length < recordHeader) :
    (criteria.inspect data).verdict = .wait := by
  match data with
  | [] | [_] | [_, _] | [_, _, _] | [_, _, _, _] => rfl
  | _ :: _ :: _ :: _ :: _ :: rest =>
    simp only [List.length_cons, recordHeader] at h
    omega

end Tls

/-! ## The two entries -/

namespace Entry

variable {entry : Entry} {detector : Detector} {data : Bytes}

theorem takes_iff_of_ungated (hgate : entry.minLength = none)
    (hd : entry.detector = some detector) :
    entry.Takes data ↔ detector.verdict data = .accept := by
  simp [takes_iff hd, gate, hgate]

theorem waits_iff_of_ungated (hgate : entry.minLength = none)
    (hd : entry.detector = some detector) :
    entry.Waits data ↔ detector.verdict data = .wait := by
  simp [waits_iff hd, gate, hgate]

end Entry

/-- A TLS entry with criteria, one without, and the catch-all; neither of the two is gated. -/
structure Registry.NarrowFirst (r : Registry) (narrow wide : Entry) (criteria : Tls.Criteria) :
    Prop where
  entries : ∃ last, r.entries = [narrow, wide, last] ∧ last.isCatchAll = true
  ungated : narrow.minLength = none ∧ wide.minLength = none
  narrow : narrow.detector = some (.tls criteria)
  asks : criteria.isEmpty = false
  wide : ∃ any : Tls.Criteria, wide.detector = some (.tls any) ∧ any.isEmpty = true

namespace Registry.NarrowFirst

variable {r : Registry} {narrow wide : Entry} {criteria : Tls.Criteria} {stream record : Bytes}
  {m : Nat}

theorem asked_eq (h : r.NarrowFirst narrow wide criteria) : r.asked = [narrow, wide] := by
  obtain ⟨last, hentries, hcatch⟩ := h.entries
  exact (asked_of_catchAll hentries hcatch).2

theorem narrow_ne_wide (h : r.NarrowFirst narrow wide criteria) : narrow ≠ wide := by
  obtain ⟨any, hany, hempty⟩ := h.wide
  rintro rfl
  rw [h.narrow] at hany
  cases hany
  rw [h.asks] at hempty
  cases hempty

/-- The narrow entry takes the stream once the whole record is there, if it is satisfied. -/
theorem takes_narrow (h : r.NarrowFirst narrow wide criteria)
    (hopens : Tls.OpensWithRecord stream record) (hm : Tls.recordHeader ≤ m) :
    narrow.Takes (stream.take m) ↔
      Tls.recordHeader + record.length ≤ m ∧ criteria.Satisfied record := by
  rw [Entry.takes_iff_of_ungated h.ungated.1 h.narrow, Detector.verdict, hopens.inspect_take hm,
    h.asks, if_neg Bool.false_ne_true]
  split_ifs with hshort
  · exact iff_of_false nofun fun hlong => Nat.not_lt.2 hlong.1 hshort
  · rw [Tls.Criteria.verdict_inspectRecord]
    exact (and_iff_right (Nat.not_lt.1 hshort)).symm

/-- The wide entry takes the stream as soon as the header is there. -/
theorem takes_wide (h : r.NarrowFirst narrow wide criteria)
    (hopens : Tls.OpensWithRecord stream record) (hm : Tls.recordHeader ≤ m) :
    wide.Takes (stream.take m) := by
  obtain ⟨any, hany, hempty⟩ := h.wide
  rw [Entry.takes_iff_of_ungated h.ungated.2 hany, Detector.verdict, hopens.inspect_take hm, hempty]
  rfl

end Registry.NarrowFirst

/-! ## Decisions -/

namespace Dispatcher

variable {d : Dispatcher} {narrow wide : Entry} {criteria : Tls.Criteria}
  {stream record data : Bytes} {m : Nat}

theorem outcome_narrow (h : d.registry.NarrowFirst narrow wide criteria)
    (hopens : Tls.OpensWithRecord stream record) (hm : Tls.recordHeader + record.length ≤ m)
    (hsatisfied : criteria.Satisfied record) : d.outcome (stream.take m) = .decided narrow := by
  have htakes : narrow.Takes (stream.take m) :=
    (h.takes_narrow hopens (Nat.le_trans (Nat.le_add_right _ _) hm)).2 ⟨hm, hsatisfied⟩
  refine outcome_of_firstTaker (Registry.firstTaker_iff.2 ?_)
  rw [h.asked_eq]
  exact List.find?_cons_of_pos (decide_eq_true htakes)

theorem outcome_wide (h : d.registry.NarrowFirst narrow wide criteria)
    (hopens : Tls.OpensWithRecord stream record) (hm : Tls.recordHeader ≤ m)
    (hnarrow : ¬ (Tls.recordHeader + record.length ≤ m ∧ criteria.Satisfied record)) :
    d.outcome (stream.take m) = .decided wide := by
  have hpasses : ¬ narrow.Takes (stream.take m) := mt (h.takes_narrow hopens hm).1 hnarrow
  refine outcome_of_firstTaker (Registry.firstTaker_iff.2 ?_)
  rw [h.asked_eq, List.find?_cons_of_neg (by simpa using hpasses)]
  exact List.find?_cons_of_pos (decide_eq_true (h.takes_wide hopens hm))

/-- Before the header is complete, both entries wait. -/
theorem outcome_of_short (h : d.registry.NarrowFirst narrow wide criteria)
    (hdata : data.length < Tls.recordHeader) : d.outcome data = .undecided := by
  obtain ⟨any, hany, -⟩ := h.wide
  have hwait : ∀ entry ∈ d.registry.asked, ∃ criteria, entry.minLength = none ∧
      entry.detector = some (.tls criteria) := by
    rw [h.asked_eq]
    simp only [List.mem_cons, List.not_mem_nil, or_false, forall_eq_or_imp, forall_eq]
    exact ⟨⟨criteria, h.ungated.1, h.narrow⟩, ⟨any, h.ungated.2, hany⟩⟩
  have hverdict : ∀ criteria : Tls.Criteria, (Detector.tls criteria).verdict data = .wait :=
    fun _ => Tls.verdict_inspect_of_short hdata
  refine outcome_of_someWaits (Registry.noTaker_iff.2 fun entry he => ?_) ?_
  · obtain ⟨criteria, hgate, hd⟩ := hwait entry he
    rw [Entry.takes_iff_of_ungated hgate hd, hverdict]
    nofun
  · refine Registry.someWaits_iff.2 ⟨narrow, ?_, ?_, ?_⟩
    · rw [h.asked_eq]
      exact List.mem_cons_self
    · rw [h.narrow]
      nofun
    · rw [Entry.waits_iff_of_ungated h.ungated.1 h.narrow, hverdict]

end Dispatcher

/-! ## Routing -/

namespace Probing

variable {d : Dispatcher} {narrow wide : Entry} {criteria : Tls.Criteria} {stream record : Bytes}
  {pieces : List Bytes}

/-- **Where reads end decides between the narrow entry and the wide one.** The narrow entry gets a
stream that begins with a record exactly if it is satisfied and the first boundary at the end of the
header or later is not before the end of the record. The wide entry gets all other streams, and so
all those in which a read ends in between. -/
theorem routes_iff_boundary (h : d.registry.NarrowFirst narrow wide criteria)
    (hopens : Tls.OpensWithRecord stream record) (hcut : IsCut stream pieces) (chunkSize : Nat)
    (after : Source) :
    let source : Source := pieces.map .data ++ after
    let limit := max chunkSize 1
    (RoutesFrom d chunkSize source narrow ↔
      (∃ m, source.FirstEnd limit 5 m ∧ 5 + record.length ≤ m) ∧ criteria.Satisfied record) ∧
    (RoutesFrom d chunkSize source wide ↔
      ¬ ((∃ m, source.FirstEnd limit 5 m ∧ 5 + record.length ≤ m) ∧
        criteria.Satisfied record)) ∧
    ∀ m, source.EndsAt limit m → 5 ≤ m → m < 5 + record.length →
      RoutesFrom d chunkSize source wide := by
  intro source limit
  have hopens' := hopens.append after.remaining
  have hfloor : 5 ≤ stream.length := Nat.le_trans (Nat.le_add_right _ _) hopens.length_le
  obtain ⟨first, hfirst⟩ :=
    hcut.exists_firstEnd (Nat.le_max_right chunkSize 1) hfloor after
  -- Everything turns on the first boundary at five bytes or more: nothing is decided before it,
  -- and there the one question is whether it covers the record.
  have hunique : ∀ m, source.FirstEnd limit 5 m → m = first := fun m hm => hm.unique hfirst
  have hroutes : ∀ {entry}, d.outcome ((stream ++ after.remaining).take first) = .decided entry →
      RoutesFrom d chunkSize source entry := fun hout =>
    drives_of_firstEnd hcut (Nat.succ_pos 4) hfloor
      (fun data _ _ hdata => Dispatcher.outcome_of_short h hdata) hfirst hout
  have hnarrow : 5 + record.length ≤ first ∧ criteria.Satisfied record →
      RoutesFrom d chunkSize source narrow := fun hm =>
    hroutes (Dispatcher.outcome_narrow h hopens' hm.1 hm.2)
  have hwide : ¬ (5 + record.length ≤ first ∧ criteria.Satisfied record) →
      RoutesFrom d chunkSize source wide := fun hm =>
    hroutes (Dispatcher.outcome_wide h hopens' hfirst.1.2 hm)
  have hcond : (∃ m, source.FirstEnd limit 5 m ∧ 5 + record.length ≤ m) ↔
      5 + record.length ≤ first :=
    ⟨fun ⟨m, hm, hlong⟩ => hunique m hm ▸ hlong, fun hlong => ⟨first, hfirst, hlong⟩⟩
  rw [hcond]
  refine ⟨⟨fun hn => ?_, hnarrow⟩, ⟨fun hw hn => ?_, hwide⟩, fun m hm hheader hrecord => ?_⟩
  · by_contra hcontra
    exact h.narrow_ne_wide (hn.unique (hwide hcontra))
  · exact h.narrow_ne_wide ((hnarrow hn).unique hw)
  · refine hwide fun hlong => ?_
    have hle : first ≤ m := hfirst.2 ⟨hm, hheader⟩
    omega

end Probing

/-! ## One client, two cuts -/

/-- An entry for clients that offer `h2`, one for all of TLS, and the catch-all. -/
def Registry.offersFirst : Registry where
  entries := [.plain "web" (some (.tls ⟨[], [[0x68, 0x32]]⟩)), .plain "tls" (some (.tls ⟨[], []⟩)),
    .plain Route.catchAllName none]
  ne_nil := by decide
  nodup := by decide

/-- In one piece the client is routed by what it offers; cut behind the header it is not. -/
theorem Probing.routes_iff_boundary_mail :
    let d : Dispatcher := ⟨.offersFirst, "web", 0⟩
    let stream := Tls.mailHello.record 3 1
    RoutesFrom d 4096 [.data stream] (.plain "web" (some (.tls ⟨[], [[0x68, 0x32]]⟩))) ∧
      RoutesFrom d 4096 [.data (stream.take 7), .data (stream.drop 7)]
        (.plain "tls" (some (.tls ⟨[], []⟩))) := by
  intro d stream
  have hfirst : d.registry.NarrowFirst (.plain "web" (some (.tls ⟨[], [[0x68, 0x32]]⟩)))
      (.plain "tls" (some (.tls ⟨[], []⟩))) ⟨[], [[0x68, 0x32]]⟩ :=
    ⟨⟨_, rfl, rfl⟩, ⟨rfl, rfl⟩, rfl, rfl, ⟨_, rfl, rfl⟩⟩
  have hopens : Tls.OpensWithRecord stream Tls.mailHello.encode :=
    ⟨by decide, by decide, 3, 1, _, _, [], by decide, by decide, (List.append_nil _).symm⟩
  have hsatisfied : Tls.Criteria.Satisfied ⟨[], [[0x68, 0x32]]⟩ Tls.mailHello.encode := by
    refine ⟨Tls.mailHello.offer, ?_, by decide⟩
    rw [Tls.offer?, Tls.ClientHello.parse?_encode (by decide)]
    rfl
  constructor
  · have hcut : IsCut stream [stream] := ⟨List.append_nil _, by decide⟩
    obtain ⟨hnarrow, -, -⟩ := routes_iff_boundary hfirst hopens hcut 4096 []
    refine hnarrow.2 ⟨?_, hsatisfied⟩
    obtain ⟨m, hm⟩ := hcut.exists_firstEnd (by decide : 0 < max 4096 1) (by decide : 5 ≤ _) []
    refine ⟨m, hm, ?_⟩
    obtain ⟨⟨k, rfl⟩, hheader⟩ := hm.1
    cases k with
    | zero => exact absurd hheader (by decide)
    | succ k =>
      rw [Source.taken_succ_of_read rfl, List.length_append]
      exact Nat.le_trans (by decide) (Nat.le_add_right _ _)
  · have hcut : IsCut stream [stream.take 7, stream.drop 7] := ⟨by decide, by decide⟩
    obtain ⟨-, -, hwide⟩ := routes_iff_boundary hfirst hopens hcut 4096 []
    exact hwide 7 ⟨1, by decide⟩ (by decide) (by decide)

end Switchboard
