import Switchboard.Proofs.Routing

/-!
# Decisions that more bytes cannot change

A decision is *settled* if no probed entry of higher priority waits. Where all probed detectors are
final, an entry that has given its answer keeps it: it takes the longer stream if it takes the
shorter one (`Entry.Takes.append`), and it does not begin to wait again (`Entry.not_waits_append`).
A gate that is open stays open.

So the entry that a settled decision is for is the first taker of every longer stream too, or, where
nobody takes the stream, the last entry still gets it. An entry of higher priority that waits may
still take the longer stream, and nothing is said of decisions that are not settled.

Main result: `settled_append`.
-/

namespace Switchboard

/-! ## Kinds -/

/-- The kinds whose verdicts are final: the distinct ones, and the one that accepts everything. -/
def Kind.lasting : List Kind := always :: distinct

theorem Detector.final_of_mem_lasting {detector : Detector} (h : detector.kind ∈ Kind.lasting) :
    detector.Final := by
  rcases List.mem_cons.1 h with hkind | hkind
  · cases detector with
    | always => exact fun _ _ _ => rfl
    | ssh | openVpn | tinc | xmpp | http | tls _ | adb | socks5 | pattern _ => cases hkind
  · exact final_of_mem_distinct hkind

/-! ## Entries -/

namespace Entry

variable {entry : Entry} {data : Bytes}

theorem verdict?_append (hfinal : entry.Final) (h : entry.verdict? data ≠ some .wait)
    (more : Bytes) : entry.verdict? (data ++ more) = entry.verdict? data := by
  unfold verdict? at h ⊢
  cases hd : entry.detector with
  | none => rfl
  | some detector =>
    have hwait : detector.verdict data ≠ .wait := fun hw => h (by rw [hd, Option.map_some, hw])
    rw [Option.map_some, Option.map_some, hfinal detector hd data more hwait]

/-- What does not wait for more of a stream does not wait for more of a longer one. -/
theorem not_waits_append (hfinal : entry.Final) (h : ¬ entry.Waits data) (more : Bytes) :
    ¬ entry.Waits (data ++ more) := by
  have hopen : entry.GateOpen data := not_not.1 fun hg => h (.inl hg)
  have hverdict : entry.verdict? data ≠ some .wait := fun hw => h (.inr ⟨hopen, hw⟩)
  rintro (hclosed | ⟨-, hw⟩)
  · exact hclosed (hopen.append more)
  · exact hverdict ((verdict?_append hfinal hverdict more).symm.trans hw)

end Entry

/-! ## Decisions -/

namespace Registry

/-- An entry has a higher priority than another one. -/
def Precedes (r : Registry) (earlier entry : Entry) : Prop :=
  ∃ before after, r.entries = before ++ entry :: after ∧ earlier ∈ before

/-- All probed entries have detectors of kinds whose verdicts are final. -/
def Lasting (r : Registry) : Prop :=
  ∀ entry, r.Probed entry → ∀ detector ∈ entry.detector, detector.kind ∈ Kind.lasting

variable {r : Registry} {entry : Entry}

theorem Lasting.final (h : r.Lasting) (he : r.Probed entry) : entry.Final :=
  fun detector hd => Detector.final_of_mem_lasting (h entry he detector hd)

end Registry

namespace Dispatcher

variable {d : Dispatcher} {data : Bytes} {entry : Entry}

/-- A decision for an entry that no probed entry of higher priority can take back. -/
structure Settled (d : Dispatcher) (data : Bytes) (entry : Entry) : Prop where
  decided : d.outcome data = .decided entry
  earlier : ∀ earlier, d.registry.Precedes earlier entry → d.registry.Probed earlier →
    ¬ earlier.Waits data

/-- The first taker stays the first one if those before it have given their answers. -/
theorem firstTaker_append (hlasting : d.registry.Lasting) (h : d.Settled data entry)
    (hfirst : d.registry.FirstTaker data entry) (more : Bytes) :
    d.registry.FirstTaker (data ++ more) entry := by
  obtain ⟨before, after, hsplit, hprobed, htakes, hbefore⟩ := hfirst
  refine ⟨before, after, hsplit, hprobed, htakes.append (hlasting.final hprobed) more, ?_⟩
  intro other hother hp
  exact Entry.not_takes_append (hlasting.final hp) (hbefore other hother hp)
    (h.earlier other ⟨before, after, hsplit, hother⟩ hp) more

/-- **A settled decision is the decision on every longer stream, and stays settled.** -/
theorem settled_append (hlasting : d.registry.Lasting) (h : d.Settled data entry) (more : Bytes) :
    d.Settled (data ++ more) entry where
  decided := by
    rcases outcome_eq_decided.1 h.decided with hfirst | ⟨hnone, hwaits, rfl⟩
    · exact outcome_of_firstTaker (firstTaker_append hlasting h hfirst more)
    · have hquiet : ∀ other, d.registry.Probed other → ¬ other.Waits data :=
        fun other hp hw => hwaits ⟨other, hp, hw⟩
      refine outcome_of_noneWaits (fun other hp => ?_) ?_
      · exact Entry.not_takes_append (hlasting.final hp) (hnone other hp) (hquiet other hp) more
      · rintro ⟨other, hp, hw⟩
        exact Entry.not_waits_append (hlasting.final hp) (hquiet other hp) more hw
  earlier := fun other hother hp =>
    Entry.not_waits_append (hlasting.final hp) (h.earlier other hother hp) more

/-- The gated entry in front has given its answer, so the one behind it keeps the connection. -/
theorem settled_append_socks :
    let d : Dispatcher := ⟨.sshFirst, "ssh", 0⟩
    let socks : Entry := .plain "socks" (some .socks5)
    d.registry.Lasting ∧ d.Settled [5, 1, 0, 1, 1, 1] socks ∧
      d.Settled ([5, 1, 0, 1, 1, 1] ++ [0x53, 0x53, 0x48, 0x2d]) socks := by
  intro d socks
  have hprobed : ∀ entry, d.registry.Probed entry → entry = .gatedSsh ∨ entry = socks := by
    intro entry he
    have hmem := (Registry.probed_iff.1 he).1
    have hasked : d.registry.asked = [.gatedSsh, socks] := rfl
    rw [hasked, List.mem_cons, List.mem_singleton] at hmem
    exact hmem
  have hlasting : d.registry.Lasting := by
    intro entry he detector hd
    rcases hprobed entry he with rfl | rfl <;> cases hd <;> decide
  have hsettled : d.Settled [5, 1, 0, 1, 1, 1] socks := by
    refine ⟨rfl, fun earlier _ he => ?_⟩
    rcases hprobed earlier he with rfl | rfl <;> decide
  exact ⟨hlasting, hsettled, settled_append hlasting hsettled _⟩

end Dispatcher

end Switchboard
