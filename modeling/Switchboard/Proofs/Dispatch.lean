import Mathlib.Data.List.Find
import Mathlib.Data.List.Forall2
import Switchboard.Dispatch

/-!
# What the answers come to

The dispatcher's decision, stated without the survey it is computed from. An entry is *probed* if it
has a detector and is not a last entry named as the catch-all. A probed entry *takes* a stream when
its gate is open and its detector accepts, and it *waits* when its gate is closed or its detector
waits.

**The loop.** `surveyOf` walks the entries and stops at the first that takes the stream. Two facts
about it carry everything: the accepting finding is that of the first taker (`find?_surveyOf`), and
where no entry takes, the pending findings are those of the entries that wait
(`any_pending_surveyOf`).

**Gates.** Behind a closed gate only the gate is seen. So two registries that differ only in
detectors behind closed gates come to the same name (`name_outcome_congr`).

Main result: `outcome_exact`.
-/

namespace Switchboard

/-! ## Entries -/

namespace Entry

/-- The number of bytes before which the detector is not asked. -/
def gate (entry : Entry) : Nat :=
  match entry.minLength with
  | some n => n.toNat
  | none => 0

/-- As many bytes have come as the gate demands. -/
def GateOpen (entry : Entry) (data : Bytes) : Prop := entry.gate ≤ data.length

instance (entry : Entry) (data : Bytes) : Decidable (entry.GateOpen data) :=
  inferInstanceAs (Decidable (entry.gate ≤ data.length))

/-- The gate is open and the detector accepts. -/
def Takes (entry : Entry) (data : Bytes) : Prop :=
  entry.GateOpen data ∧ entry.verdict? data = some .accept

instance (entry : Entry) (data : Bytes) : Decidable (entry.Takes data) :=
  inferInstanceAs (Decidable (_ ∧ _))

/-- The gate is closed, or it is open and the detector waits. -/
def Waits (entry : Entry) (data : Bytes) : Prop :=
  ¬ entry.GateOpen data ∨ entry.GateOpen data ∧ entry.verdict? data = some .wait

instance (entry : Entry) (data : Bytes) : Decidable (entry.Waits data) :=
  inferInstanceAs (Decidable (_ ∨ _))

theorem GateOpen.append {entry : Entry} {data : Bytes} (h : entry.GateOpen data) (more : Bytes) :
    entry.GateOpen (data ++ more) := by
  unfold GateOpen at h ⊢
  rw [List.length_append]
  omega

theorem answer?_of_open {entry : Entry} {data : Bytes} (h : entry.GateOpen data) :
    entry.answer? data = (entry.verdict? data).map .judged := by
  unfold GateOpen gate at h
  unfold answer? verdict?
  cases entry.detector with
  | none => rfl
  | some detector =>
    cases hm : entry.minLength with
    | none => rfl
    | some n =>
      rw [hm] at h
      simp only [Option.map_some, if_neg (Nat.not_lt.2 h)]

theorem answer?_of_closed {entry : Entry} {data : Bytes} (h : ¬ entry.GateOpen data) :
    entry.answer? data = entry.detector.map fun _ => .gated entry.gate := by
  unfold GateOpen at h
  unfold gate at h ⊢
  unfold answer?
  cases hm : entry.minLength with
  | none => simp [hm] at h
  | some n =>
    rw [hm] at h
    simp only [if_pos (Nat.not_le.1 h)]

theorem answer?_eq_none {entry : Entry} {data : Bytes} :
    entry.answer? data = none ↔ entry.detector = none := by
  simp [answer?]

/-- **An accepting answer is one of an entry that takes the stream.** -/
theorem answer?_eq_accept {entry : Entry} {data : Bytes} :
    entry.answer? data = some (.judged .accept) ↔ entry.Takes data := by
  by_cases h : entry.GateOpen data
  · simp [answer?_of_open h, Takes, h]
  · simp [answer?_of_closed h, Takes, h]

/-- **A pending answer is one of an entry that waits.** -/
theorem isPending_of_answer? {entry : Entry} {data : Bytes} {answer : Answer}
    (h : entry.answer? data = some answer) : answer.isPending = true ↔ entry.Waits data := by
  by_cases hg : entry.GateOpen data
  · rw [answer?_of_open hg, Option.map_eq_some_iff] at h
    obtain ⟨verdict, hv, rfl⟩ := h
    simp [Waits, hg, hv, Answer.isPending]
  · rw [answer?_of_closed hg, Option.map_eq_some_iff] at h
    obtain ⟨-, -, rfl⟩ := h
    simp [Waits, hg, Answer.isPending]

theorem Takes.detector_ne_none {entry : Entry} {data : Bytes} (h : entry.Takes data) :
    entry.detector ≠ none := by
  intro hn
  simp [Takes, verdict?, hn] at h

theorem not_takes_of_detector_eq_none {entry : Entry} {data : Bytes} (h : entry.detector = none) :
    ¬ entry.Takes data := fun ht => ht.detector_ne_none h

theorem takes_iff {entry : Entry} {detector : Detector} {data : Bytes}
    (h : entry.detector = some detector) :
    entry.Takes data ↔ entry.gate ≤ data.length ∧ detector.verdict data = .accept := by
  simp [Takes, GateOpen, verdict?, h]

theorem waits_iff {entry : Entry} {detector : Detector} {data : Bytes}
    (h : entry.detector = some detector) :
    entry.Waits data ↔ data.length < entry.gate ∨ detector.verdict data = .wait := by
  simp only [Waits, GateOpen, verdict?, h, Option.map_some, Option.some.injEq, Nat.not_le]
  by_cases hgate : data.length < entry.gate
  · simp [hgate]
  · simp [hgate, Nat.not_lt.1 hgate]

end Entry

/-! ## The survey -/

namespace Registry

/-- The accepting finding is the one of the first entry that takes the stream. -/
theorem find?_surveyOf (data : Bytes) (entries : List Entry) :
    ((surveyOf data entries).find? (·.answer = .judged .accept)).map Finding.entry =
      entries.find? (·.Takes data) := by
  induction entries with
  | nil => rfl
  | cons entry rest ih =>
    cases ha : entry.answer? data with
    | none =>
      have hn : ¬ entry.Takes data :=
        Entry.not_takes_of_detector_eq_none (Entry.answer?_eq_none.1 ha)
      simp [surveyOf, ha, hn, ih]
    | some answer =>
      by_cases hacc : answer = .judged .accept
      · have ht : entry.Takes data := Entry.answer?_eq_accept.1 (by rw [ha, hacc])
        simp [surveyOf, ha, hacc, ht]
      · have hn : ¬ entry.Takes data := fun ht =>
          hacc (Option.some.inj (ha.symm.trans (Entry.answer?_eq_accept.2 ht)))
        simp [surveyOf, ha, hacc, hn, ih]

/-- Where no entry takes the stream, something is pending exactly if an entry with a detector
waits. -/
theorem any_pending_surveyOf {data : Bytes} {entries : List Entry}
    (h : ∀ entry ∈ entries, ¬ entry.Takes data) :
    (surveyOf data entries).any (·.answer.isPending) = true ↔
      ∃ entry ∈ entries, entry.detector ≠ none ∧ entry.Waits data := by
  induction entries with
  | nil => simp [surveyOf]
  | cons entry rest ih =>
    have hrest := ih fun e he => h e (List.mem_cons_of_mem _ he)
    cases ha : entry.answer? data with
    | none => simp [surveyOf, ha, hrest, Entry.answer?_eq_none.1 ha]
    | some answer =>
      have hacc : answer ≠ .judged .accept := fun hacc =>
        h entry List.mem_cons_self (Entry.answer?_eq_accept.1 (by rw [ha, hacc]))
      have hd : entry.detector ≠ none := fun hn => by
        rw [Entry.answer?_eq_none.2 hn] at ha
        cases ha
      simp only [surveyOf, ha, hacc, if_false, List.any_cons, Bool.or_eq_true, hrest,
        Entry.isPending_of_answer? ha, List.mem_cons, exists_eq_or_imp]
      exact or_congr_left (iff_and_self.2 fun _ => hd)

/-! ## Probed entries -/

variable {r : Registry}

/-- An entry that is probed: it has a detector and is not a last entry named as the catch-all. -/
def Probed (r : Registry) (entry : Entry) : Prop :=
  entry ∈ r.entries ∧ entry.detector ≠ none ∧ ¬ (entry = r.last ∧ entry.isCatchAll)

/-- The first probed entry, in order of priority, that takes a stream. -/
def FirstTaker (r : Registry) (data : Bytes) (entry : Entry) : Prop :=
  ∃ before after, r.entries = before ++ entry :: after ∧ r.Probed entry ∧ entry.Takes data ∧
    ∀ earlier ∈ before, r.Probed earlier → ¬ earlier.Takes data

/-- No probed entry takes a stream. -/
def NoTaker (r : Registry) (data : Bytes) : Prop :=
  ∀ entry, r.Probed entry → ¬ entry.Takes data

/-- A probed entry waits for more of a stream. -/
def SomeWaits (r : Registry) (data : Bytes) : Prop :=
  ∃ entry, r.Probed entry ∧ entry.Waits data

theorem dropLast_append_last (r : Registry) : r.entries.dropLast ++ [r.last] = r.entries :=
  List.dropLast_append_getLast r.ne_nil

/-- Names are unique, so the last entry stands in the last place only. -/
theorem ne_last_of_mem_dropLast {entry : Entry} (h : entry ∈ r.entries.dropLast) :
    entry ≠ r.last := by
  rintro rfl
  have hn := r.nodup
  rw [← r.dropLast_append_last, List.map_append, List.nodup_append] at hn
  exact hn.2.2 _ (List.mem_map_of_mem h) _ (List.mem_map_of_mem List.mem_cons_self) rfl

/-- Besides the entries that are asked there is at most a last one named as the catch-all. -/
theorem entries_eq_asked (r : Registry) :
    ∃ rest, r.entries = r.asked ++ rest ∧ ∀ entry ∈ rest, entry = r.last ∧ entry.isCatchAll := by
  unfold asked
  split_ifs with h
  · refine ⟨[r.last], r.dropLast_append_last.symm, fun entry he => ?_⟩
    obtain rfl := List.mem_singleton.1 he
    exact ⟨rfl, h⟩
  · exact ⟨[], (List.append_nil _).symm, fun _ he => nomatch he⟩

/-- Before a last entry that is named as the catch-all, all entries are asked. -/
theorem asked_of_catchAll {entries : List Entry} {last : Entry}
    (h : r.entries = entries ++ [last]) (hcatch : last.isCatchAll = true) :
    r.last = last ∧ r.asked = entries := by
  have hlast : r.last = last := by simp [Registry.last, h]
  refine ⟨hlast, ?_⟩
  rw [asked, hlast, if_pos hcatch, h, List.dropLast_concat]

theorem mem_asked {entry : Entry} :
    entry ∈ r.asked ↔ entry ∈ r.entries ∧ ¬ (entry = r.last ∧ entry.isCatchAll) := by
  unfold asked
  split_ifs with h
  · constructor
    · exact fun he => ⟨List.dropLast_subset _ he, fun hl => ne_last_of_mem_dropLast he hl.1⟩
    · rintro ⟨he, hl⟩
      rw [← r.dropLast_append_last, List.mem_append, List.mem_singleton] at he
      exact he.resolve_right fun hlast => hl ⟨hlast, hlast ▸ h⟩
  · exact ⟨fun he => ⟨he, fun hl => h (hl.1 ▸ hl.2)⟩, And.left⟩

theorem probed_iff {entry : Entry} : r.Probed entry ↔ entry ∈ r.asked ∧ entry.detector ≠ none := by
  rw [Probed, mem_asked, and_right_comm, and_assoc]

theorem noTaker_iff {data : Bytes} :
    r.NoTaker data ↔ ∀ entry ∈ r.asked, ¬ entry.Takes data := by
  simp only [NoTaker, probed_iff]
  exact forall_congr' fun entry =>
    ⟨fun h ha ht => h ⟨ha, ht.detector_ne_none⟩ ht, fun h hp => h hp.1⟩

theorem someWaits_iff {data : Bytes} :
    r.SomeWaits data ↔ ∃ entry ∈ r.asked, entry.detector ≠ none ∧ entry.Waits data := by
  simp only [SomeWaits, probed_iff, and_assoc]

open Classical in
/-- Only probed entries take a stream, so the first taker among those asked is the first probed
entry that takes it. -/
theorem find?_entries (r : Registry) (data : Bytes) :
    r.entries.find? (fun entry => r.Probed entry ∧ entry.Takes data) =
      r.asked.find? (·.Takes data) := by
  obtain ⟨rest, hrest, hcatch⟩ := r.entries_eq_asked
  have hnone : rest.find? (fun entry => r.Probed entry ∧ entry.Takes data) = none := by
    rw [List.find?_eq_none]
    intro entry he hp
    exact (of_decide_eq_true hp).1.2.2 (hcatch entry he)
  rw [hrest, List.find?_append, hnone, Option.or_none]
  refine List.find?_congr fun entry he => decide_eq_decide.2 ⟨And.right, fun ht => ?_⟩
  exact ⟨probed_iff.2 ⟨he, ht.detector_ne_none⟩, ht⟩

theorem firstTaker_iff {data : Bytes} {entry : Entry} :
    r.FirstTaker data entry ↔ r.asked.find? (·.Takes data) = some entry := by
  rw [← find?_entries, List.find?_eq_some_iff_append]
  simp only [decide_eq_true_eq, Bool.not_eq_true', decide_eq_false_iff_not, not_and]
  constructor
  · rintro ⟨before, after, hsplit, hp, ht, hbefore⟩
    exact ⟨⟨hp, ht⟩, before, after, hsplit, hbefore⟩
  · rintro ⟨⟨hp, ht⟩, before, after, hsplit, hbefore⟩
    exact ⟨before, after, hsplit, hp, ht, hbefore⟩

theorem noTaker_iff_find? {data : Bytes} :
    r.NoTaker data ↔ r.asked.find? (·.Takes data) = none := by
  rw [noTaker_iff, List.find?_eq_none]
  simp only [decide_eq_true_eq]

theorem FirstTaker.mem {data : Bytes} {entry : Entry} (h : r.FirstTaker data entry) :
    r.Probed entry ∧ entry.Takes data :=
  let ⟨_, _, _, hp, ht, _⟩ := h
  ⟨hp, ht⟩

/-- There is a first taker, or nobody takes the stream. -/
theorem firstTaker_or_noTaker (r : Registry) (data : Bytes) :
    (∃ entry, r.FirstTaker data entry) ∨ r.NoTaker data := by
  simp only [firstTaker_iff, noTaker_iff_find?]
  cases r.asked.find? (·.Takes data) with
  | none => exact .inr rfl
  | some entry => exact .inl ⟨entry, rfl⟩

end Registry

/-! ## The outcome -/

namespace Dispatcher

variable {d : Dispatcher} {data : Bytes}

theorem find?_survey (d : Dispatcher) (data : Bytes) :
    ((d.registry.survey data).find? (·.answer = .judged .accept)).map Finding.entry =
      d.registry.asked.find? (·.Takes data) :=
  Registry.find?_surveyOf data d.registry.asked

/-- The first taker takes the connection, whatever else is pending. -/
theorem outcome_of_firstTaker {entry : Entry} (h : d.registry.FirstTaker data entry) :
    d.outcome data = .decided entry := by
  rw [Registry.firstTaker_iff, ← find?_survey, Option.map_eq_some_iff] at h
  obtain ⟨finding, hf, rfl⟩ := h
  rw [outcome, Outcome.ofFindings, hf]

/-- Without a taker, what the pending findings say decides between the open question and the last
entry. -/
theorem outcome_of_noTaker (h : d.registry.NoTaker data) :
    d.outcome data = if (d.registry.survey data).any (·.answer.isPending) then .undecided
      else .decided d.registry.last := by
  rw [Registry.noTaker_iff_find?, ← find?_survey, Option.map_eq_none_iff] at h
  rw [outcome, Outcome.ofFindings, h]

theorem any_pending_survey (h : d.registry.NoTaker data) :
    (d.registry.survey data).any (·.answer.isPending) = true ↔ d.registry.SomeWaits data := by
  rw [Registry.someWaits_iff]
  exact Registry.any_pending_surveyOf (Registry.noTaker_iff.1 h)

theorem outcome_of_someWaits (h : d.registry.NoTaker data) (hw : d.registry.SomeWaits data) :
    d.outcome data = .undecided := by
  rw [outcome_of_noTaker h, if_pos ((any_pending_survey h).2 hw)]

theorem outcome_of_noneWaits (h : d.registry.NoTaker data) (hw : ¬ d.registry.SomeWaits data) :
    d.outcome data = .decided d.registry.last := by
  rw [outcome_of_noTaker h, if_neg fun hp => hw ((any_pending_survey h).1 hp)]

theorem outcome_eq_decided {entry : Entry} :
    d.outcome data = .decided entry ↔
      d.registry.FirstTaker data entry ∨
        d.registry.NoTaker data ∧ ¬ d.registry.SomeWaits data ∧ entry = d.registry.last := by
  constructor
  · intro h
    rcases d.registry.firstTaker_or_noTaker data with ⟨first, hf⟩ | hn
    · rw [outcome_of_firstTaker hf] at h
      cases h
      exact .inl hf
    · by_cases hw : d.registry.SomeWaits data
      · rw [outcome_of_someWaits hn hw] at h
        cases h
      · rw [outcome_of_noneWaits hn hw] at h
        cases h
        exact .inr ⟨hn, hw, rfl⟩
  · rintro (hf | ⟨hn, hw, rfl⟩)
    · exact outcome_of_firstTaker hf
    · exact outcome_of_noneWaits hn hw

theorem outcome_eq_undecided :
    d.outcome data = .undecided ↔ d.registry.NoTaker data ∧ d.registry.SomeWaits data := by
  constructor
  · intro h
    rcases d.registry.firstTaker_or_noTaker data with ⟨first, hf⟩ | hn
    · rw [outcome_of_firstTaker hf] at h
      cases h
    · refine ⟨hn, ?_⟩
      by_contra hw
      rw [outcome_of_noneWaits hn hw] at h
      cases h
  · exact fun ⟨hn, hw⟩ => outcome_of_someWaits hn hw

end Dispatcher

/-! ## Behind closed gates -/

/-- Two entries that differ, for a stream, at most behind their gates: the gates are the same, and
where they are open so is the detector. -/
structure Entry.SameGated (data : Bytes) (entry other : Entry) : Prop where
  name : other.name = entry.name
  minLength : other.minLength = entry.minLength
  probed : other.detector = none ↔ entry.detector = none
  detector : entry.GateOpen data → other.detector = entry.detector

namespace Entry.SameGated

variable {data : Bytes} {entry other : Entry}

theorem gateOpen_iff (h : SameGated data entry other) :
    other.GateOpen data ↔ entry.GateOpen data := by
  unfold GateOpen gate
  rw [h.minLength]

theorem takes_iff (h : SameGated data entry other) : other.Takes data ↔ entry.Takes data := by
  unfold Takes verdict?
  rw [h.gateOpen_iff]
  exact and_congr_right fun hg => by rw [h.detector hg]

theorem waits_iff (h : SameGated data entry other) : other.Waits data ↔ entry.Waits data := by
  unfold Waits verdict?
  rw [h.gateOpen_iff]
  exact or_congr_right (and_congr_right fun hg => by rw [h.detector hg])

theorem isCatchAll_eq (h : SameGated data entry other) : other.isCatchAll = entry.isCatchAll := by
  rw [isCatchAll, h.name, isCatchAll]

/-- Of entries that differ only behind their gates, the first takers have the same name. -/
theorem name_find? {entries others : List Entry}
    (h : List.Forall₂ (SameGated data) entries others) :
    (others.find? (·.Takes data)).map Entry.name =
      (entries.find? (·.Takes data)).map Entry.name := by
  induction h with
  | nil => rfl
  | @cons entry other _ _ hhead _ ih =>
    by_cases ht : entry.Takes data
    · simp [ht, hhead.takes_iff.2 ht, hhead.name]
    · simp [ht, mt hhead.takes_iff.1 ht, ih]

theorem exists_waits_iff {entries others : List Entry}
    (h : List.Forall₂ (SameGated data) entries others) :
    (∃ other ∈ others, other.detector ≠ none ∧ other.Waits data) ↔
      ∃ entry ∈ entries, entry.detector ≠ none ∧ entry.Waits data := by
  induction h with
  | nil => simp
  | cons hhead _ ih =>
    simp only [List.mem_cons, exists_eq_or_imp, ih, hhead.waits_iff, ne_eq, hhead.probed]

end Entry.SameGated

namespace Registry

variable {data : Bytes} {r other : Registry}

theorem sameGated_parts (h : List.Forall₂ (Entry.SameGated data) r.entries other.entries) :
    List.Forall₂ (Entry.SameGated data) r.entries.dropLast other.entries.dropLast ∧
      Entry.SameGated data r.last other.last := by
  rw [← r.dropLast_append_last, ← other.dropLast_append_last, ← List.forall₂_reverse_iff,
    List.reverse_concat, List.reverse_concat, List.forall₂_cons, List.forall₂_reverse_iff] at h
  exact h.symm

theorem sameGated_asked (h : List.Forall₂ (Entry.SameGated data) r.entries other.entries) :
    List.Forall₂ (Entry.SameGated data) r.asked other.asked := by
  obtain ⟨hinit, hlast⟩ := sameGated_parts h
  unfold asked
  rw [hlast.isCatchAll_eq]
  split_ifs
  · exact hinit
  · exact h

end Registry

/-- The name of the entry that takes the connection, if that is decided. -/
def Outcome.name? : Outcome → Option String
  | decided entry => some entry.name
  | undecided => none

/-- **Only the gate of a closed gate is seen.** Registries that differ, for a stream, only behind
their gates come to the same name. -/
theorem Dispatcher.name_outcome_congr {d other : Dispatcher} {data : Bytes}
    (h : List.Forall₂ (Entry.SameGated data) d.registry.entries other.registry.entries) :
    (other.outcome data).name? = (d.outcome data).name? := by
  have hasked := Registry.sameGated_asked h
  have hfind := Entry.SameGated.name_find? hasked
  rcases d.registry.firstTaker_or_noTaker data with ⟨first, hf⟩ | hn
  · rw [Registry.firstTaker_iff.1 hf, Option.map_some, Option.map_eq_some_iff] at hfind
    obtain ⟨first', hf', hname⟩ := hfind
    rw [outcome_of_firstTaker hf, outcome_of_firstTaker (Registry.firstTaker_iff.2 hf')]
    exact congrArg some hname
  · rw [Registry.noTaker_iff_find?.1 hn, Option.map_none, Option.map_eq_none_iff] at hfind
    have hn' := Registry.noTaker_iff_find?.2 hfind
    have hwaits : other.registry.SomeWaits data ↔ d.registry.SomeWaits data := by
      rw [Registry.someWaits_iff, Registry.someWaits_iff]
      exact Entry.SameGated.exists_waits_iff hasked
    by_cases hw : d.registry.SomeWaits data
    · rw [outcome_of_someWaits hn hw, outcome_of_someWaits hn' (hwaits.2 hw)]
    · rw [outcome_of_noneWaits hn hw, outcome_of_noneWaits hn' (mt hwaits.1 hw)]
      exact congrArg some (Registry.sameGated_parts h).2.name

/-- **The dispatcher is exact.** The first probed entry that takes the stream gets it, whatever is
pending; without one the last entry gets it once no probed entry waits, and until then the question
is open. What detectors say behind closed gates does not matter. -/
theorem Dispatcher.outcome_exact (d : Dispatcher) (data : Bytes) :
    (∀ entry, d.outcome data = .decided entry ↔
      d.registry.FirstTaker data entry ∨
        d.registry.NoTaker data ∧ ¬ d.registry.SomeWaits data ∧ entry = d.registry.last) ∧
    (d.outcome data = .undecided ↔ d.registry.NoTaker data ∧ d.registry.SomeWaits data) ∧
    ∀ other : Dispatcher,
      List.Forall₂ (Entry.SameGated data) d.registry.entries other.registry.entries →
        (other.outcome data).name? = (d.outcome data).name? :=
  ⟨fun _ => outcome_eq_decided, outcome_eq_undecided, fun _ h => name_outcome_congr h⟩

end Switchboard
