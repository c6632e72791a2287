import Switchboard.Proofs.Building
import Switchboard.Proofs.Warnings

/-!
# What stands behind the catch-all

The entry that is named as the catch-all is meant to take what no other entry takes, and so to stand
last. Where it does not, settings are warned about: what stands behind it is said to be unreachable.
The warning looks at names and places only.

**Reaching the back of a table** (`decided_mem_iff`). Wherever a table is cut in two, its back is
reached by the streams that nothing in its front takes, and that something in its back takes or for
which nothing waits: then they fall to the last entry.

**The catch-all.** It takes every stream only if it has the detector that accepts everything, and
only once its gate is open. So without a gate the warning is right, and with one the entries behind
it may get streams shorter than the gate. The catch-all may also have another detector, or none.

Main result: `behind_catchAll_exact`.
-/

namespace Switchboard

/-! ## Reaching the back of a table -/

namespace Registry

variable {r : Registry} {data : Bytes} {front back : List Entry} {entry : Entry}

theorem nodup_entries (r : Registry) : r.entries.Nodup := r.nodup.of_map

theorem FirstTaker.not_takes_front (h : r.FirstTaker data entry) (hasked : r.asked = front ++ back)
    (hnodup : (front ++ back).Nodup) (hentry : entry ∈ back) :
    ∀ earlier ∈ front, ¬ earlier.Takes data := by
  have hfound := firstTaker_iff.1 h
  rw [hasked, List.find?_append] at hfound
  cases hfront : front.find? (·.Takes data) with
  | none => simpa using hfront
  | some earlier =>
    rw [hfront, Option.some_or, Option.some.injEq] at hfound
    have hmem := List.mem_of_find?_eq_some hfront
    exact absurd hfound ((List.nodup_append.1 hnodup).2.2 earlier hmem entry hentry)

theorem FirstTaker.mem_back (h : r.FirstTaker data entry) (hasked : r.asked = front ++ back)
    (hfront : ∀ earlier ∈ front, ¬ earlier.Takes data) : entry ∈ back := by
  have hmem : entry ∈ front ++ back := by
    rw [← hasked]
    exact (probed_iff.1 h.mem.1).1
  rcases List.mem_append.1 hmem with hearlier | hentry
  · exact absurd h.mem.2 (hfront entry hearlier)
  · exact hentry

end Registry

/-- Something in the back of the table gets a connection exactly if nothing in its front takes the
stream, and something in the back does or nothing waits. -/
theorem Dispatcher.decided_mem_iff {d : Dispatcher} {data : Bytes} {front back : List Entry}
    (hasked : d.registry.asked = front ++ back) (hnodup : (front ++ back).Nodup)
    (hlast : d.registry.last ∈ back) :
    (∃ entry ∈ back, d.outcome data = .decided entry) ↔
      (∀ earlier ∈ front, ¬ earlier.Takes data) ∧
        ((∃ entry ∈ back, entry.Takes data) ∨ ¬ d.registry.SomeWaits data) := by
  constructor
  · rintro ⟨entry, hentry, houtcome⟩
    -- An entry is decided as the first taker or, the last one, as the fallback.
    rcases outcome_eq_decided.1 houtcome with hfirst | ⟨hnone, hquiet, -⟩
    · exact ⟨hfirst.not_takes_front hasked hnodup hentry, .inl ⟨entry, hentry, hfirst.mem.2⟩⟩
    · have hall := Registry.noTaker_iff.1 hnone
      rw [hasked] at hall
      exact ⟨fun earlier hearlier => hall earlier (List.mem_append_left _ hearlier), .inr hquiet⟩
  · rintro ⟨hfront, hback⟩
    rcases d.registry.firstTaker_or_noTaker data with ⟨entry, hfirst⟩ | hnone
    · exact ⟨entry, hfirst.mem_back hasked hfront, outcome_of_firstTaker hfirst⟩
    · refine ⟨d.registry.last, hlast, outcome_of_noneWaits hnone ?_⟩
      rcases hback with ⟨entry, hentry, htakes⟩ | hquiet
      · have hmem : entry ∈ d.registry.asked := by
          rw [hasked]
          exact List.mem_append_right _ hentry
        exact absurd htakes (Registry.noTaker_iff.1 hnone entry hmem)
      · exact hquiet

/-! ## The catch-all -/

namespace Registry

/-- The catch-all stands between two parts of the table, the second of which is not empty. -/
structure CatchAllBetween (r : Registry) (before : List Entry) (entry : Entry)
    (after : List Entry) : Prop where
  entries_eq : r.entries = before ++ entry :: after
  isCatchAll : entry.isCatchAll = true
  ne_nil : after ≠ []

namespace CatchAllBetween

variable {r : Registry} {before after : List Entry} {entry : Entry}

theorem entries_eq_append (h : r.CatchAllBetween before entry after) :
    r.entries = (before ++ [entry]) ++ after := by
  rw [h.entries_eq, List.append_assoc, List.singleton_append]

theorem last_mem (h : r.CatchAllBetween before entry after) : r.last ∈ after := by
  have hlast : r.last = after.getLast h.ne_nil := by
    simp only [Registry.last, h.entries_eq_append]
    exact List.getLast_append_of_ne_nil _ h.ne_nil
  rw [hlast]
  exact List.getLast_mem h.ne_nil

theorem asked_eq (h : r.CatchAllBetween before entry after) :
    r.asked = (before ++ [entry]) ++ after := by
  have hnames := r.nodup
  rw [h.entries_eq_append, List.map_append, List.nodup_append] at hnames
  have hlast : ¬ r.last.isCatchAll = true := by
    intro hcatch
    have hname : entry.name = r.last.name := by
      rw [eq_of_beq h.isCatchAll, eq_of_beq hcatch]
    have hentry : entry ∈ before ++ [entry] := List.mem_append_right _ List.mem_cons_self
    exact hnames.2.2 _ (List.mem_map_of_mem hentry) _ (List.mem_map_of_mem h.last_mem) hname
  rw [asked, if_neg hlast, h.entries_eq_append]

theorem decided_mem_iff {d : Dispatcher} (h : d.registry.CatchAllBetween before entry after)
    (data : Bytes) :
    (∃ other ∈ after, d.outcome data = .decided other) ↔
      (∀ earlier ∈ before ++ [entry], ¬ earlier.Takes data) ∧
        ((∃ other ∈ after, other.Takes data) ∨ ¬ d.registry.SomeWaits data) := by
  apply Dispatcher.decided_mem_iff h.asked_eq _ h.last_mem
  rw [← h.entries_eq_append]
  exact d.registry.nodup_entries

/-- What passes a catch-all that accepts everything is shorter than its gate. -/
theorem length_lt_gate {d : Dispatcher} (h : d.registry.CatchAllBetween before entry after)
    (halways : entry.detector = some .always) {data : Bytes} {other : Entry}
    (hother : other ∈ after) (houtcome : d.outcome data = .decided other) :
    data.length < entry.gate := by
  have hfront := ((h.decided_mem_iff data).1 ⟨other, hother, houtcome⟩).1
  have hnot : ¬ entry.Takes data := hfront entry (List.mem_append_right _ List.mem_cons_self)
  rw [Entry.takes_iff halways] at hnot
  by_contra hopen
  exact hnot ⟨Nat.not_lt.1 hopen, rfl⟩

end CatchAllBetween

end Registry

/-- Whether something stands behind an item of a name shows in the names alone. -/
theorem exists_split_iff {α : Type} {name : α → String} {items : List α} {wanted : String} :
    (∃ before item after, items = before ++ item :: after ∧ name item = wanted ∧ after ≠ []) ↔
      ∃ before after, items.map name = before ++ wanted :: after ∧ after ≠ [] := by
  constructor
  · rintro ⟨before, item, after, rfl, rfl, hafter⟩
    refine ⟨before.map name, after.map name, ?_, ?_⟩
    · rw [List.map_append, List.map_cons]
    · rwa [ne_eq, List.map_eq_nil_iff]
  · rintro ⟨before, after, hnames, hafter⟩
    obtain ⟨items₁, items₂, rfl, rfl, htail⟩ := List.map_eq_append_iff.1 hnames
    obtain ⟨item, rest, rfl, rfl, rfl⟩ := List.map_eq_cons_iff.1 htail
    exact ⟨items₁, item, rest, rfl, rfl, fun hnil => hafter (by rw [hnil, List.map_nil])⟩

namespace Settings

variable {engine : Pattern.Engine} {settings : Settings}

/-- What the warning about routes behind the catch-all says, and what the dispatcher does. -/
structure CatchAllJudged (engine : Pattern.Engine) (settings : Settings) (d : Dispatcher) :
    Prop where
  /-- The entries are the routes, with their gates and with detectors of the kinds asked for. -/
  realizes : List.Forall₂ (Entry.Realizes engine) settings.routes d.registry.entries
  /-- The warning is given if the catch-all does not stand last, whatever its detector and gate. -/
  warned : (Doubt.notLast Route.catchAllName).text ∈ settings.warnings ↔
    ∃ before entry after, d.registry.CatchAllBetween before entry after
  /-- What stands behind the catch-all gets the streams that nothing up to the catch-all takes, and
  that something behind it takes or nothing waits for. -/
  reached : ∀ before entry after, d.registry.CatchAllBetween before entry after → ∀ data,
    ((∃ other ∈ after, d.outcome data = .decided other) ↔
      (∀ earlier ∈ before ++ [entry], ¬ earlier.Takes data) ∧
        ((∃ other ∈ after, other.Takes data) ∨ ¬ d.registry.SomeWaits data))
  /-- The warning is right about a catch-all that accepts everything and has no gate. -/
  unreachable : ∀ before entry after, d.registry.CatchAllBetween before entry after →
    entry.detector = some .always → entry.minLength = none →
    ∀ data, ∀ other ∈ after, d.outcome data ≠ .decided other
  /-- With a gate it may be wrong about the streams that are shorter. -/
  gated : ∀ before entry after, d.registry.CatchAllBetween before entry after →
    entry.detector = some .always →
    ∀ data, ∀ other ∈ after, d.outcome data = .decided other → data.length < entry.gate

theorem exists_catchAllBetween_iff {registry : Registry} :
    (∃ before entry after, registry.CatchAllBetween before entry after) ↔
      ∃ before after, registry.entries.map Entry.name = before ++ Route.catchAllName :: after ∧
        after ≠ [] := by
  rw [← exists_split_iff]
  constructor
  · rintro ⟨before, entry, after, hentries, hcatch, hafter⟩
    exact ⟨before, entry, after, hentries, eq_of_beq hcatch, hafter⟩
  · rintro ⟨before, entry, after, hentries, hname, hafter⟩
    exact ⟨before, entry, after, hentries, beq_iff_eq.2 hname, hafter⟩

/-- **What stands behind the catch-all.** It gets the streams that nothing up to the catch-all
takes, and that something behind it takes or nothing waits for. That is none at all where the
catch-all accepts everything and has no gate. -/
theorem behind_catchAll_exact (hvalid : settings.validate = .ok ())
    (hpatterns : settings.PatternsCompile engine) :
    ∃ d, Dispatcher.ofSettings engine settings = .ok d ∧ settings.CatchAllJudged engine d := by
  obtain ⟨d, hd⟩ := (validate_eq_ok_iff.1 hvalid).exists_dispatcher hpatterns
  have hregistry := registry_of_ofSettings hd
  have hnames := map_name_of_ofRoutes (Registry.ofSettings_eq_ok_iff.1 hregistry)
  refine ⟨_, hd, realizes_of_ofSettings hregistry, ?_, ?_, ?_, ?_⟩
  · rw [notLast_mem_warnings_iff, exists_split_iff, exists_catchAllBetween_iff, hnames]
    exact ⟨fun h => h.2, fun h => ⟨rfl, h⟩⟩
  · intro before entry after hbetween data
    exact hbetween.decided_mem_iff data
  · intro before entry after hbetween halways hgate data other hother houtcome
    have hshort := hbetween.length_lt_gate halways hother houtcome
    rw [Entry.gate, hgate] at hshort
    exact Nat.not_lt_zero _ hshort
  · intro before entry after hbetween halways data other hother houtcome
    exact hbetween.length_lt_gate halways hother houtcome

/-- A catch-all, with or without a gate, before a route for SSH. -/
def catchAllFirst (gate : Option UInt64) : Settings :=
  { Settings.default with
    routes := [
      { Route.named "anyprot" with host := some "127.0.0.1", port := some 80, minLength := gate },
      { Route.named "ssh" with host := some "127.0.0.1", port := some 22 }] }

/-- Routes without patterns ask nothing of the library of patterns. -/
theorem patternsCompile_catchAllFirst (engine : Pattern.Engine) (gate : Option UInt64) :
    (catchAllFirst gate).PatternsCompile engine :=
  (exists_ofSettings_iff.1 ⟨_, rfl⟩).2

theorem behind_catchAll_exact_ungated :
    (catchAllFirst none).validate = .ok () ∧ (catchAllFirst none).PatternsCompile wordEngine ∧
      (Doubt.notLast Route.catchAllName).text ∈ (catchAllFirst none).warnings ∧
      ∃ d, Dispatcher.ofSettings wordEngine (catchAllFirst none) = .ok d ∧
        d.registry.entries.map Entry.name = ["anyprot", "ssh"] ∧
        ∀ data, ∀ other ∈ d.registry.entries.tail, d.outcome data ≠ .decided other := by
  have hvalid : (catchAllFirst none).validate = .ok () := rfl
  have hpatterns := patternsCompile_catchAllFirst wordEngine none
  obtain ⟨d, hd, hjudged⟩ := behind_catchAll_exact hvalid hpatterns
  cases hd
  refine ⟨hvalid, hpatterns, by decide, _, rfl, rfl, ?_⟩
  exact hjudged.unreachable [] _ _ ⟨rfl, rfl, List.cons_ne_nil _ _⟩ rfl rfl

/-- **A gate lets pass.** A route behind a catch-all with a gate gets a stream that is shorter,
whatever library the patterns come from. -/
theorem gated_catchAll_lets_pass :
    ¬ ∃ engine : Pattern.Engine, ∀ (settings : Settings) (d : Dispatcher),
      settings.validate = .ok () → settings.PatternsCompile engine →
      Dispatcher.ofSettings engine settings = .ok d →
      (Doubt.notLast Route.catchAllName).text ∈ settings.warnings →
      ∀ before entry after, d.registry.CatchAllBetween before entry after →
        ∀ data, ∀ other ∈ after, d.outcome data ≠ .decided other := by
  rintro ⟨engine, hall⟩
  have hpatterns := patternsCompile_catchAllFirst engine (some 16)
  have hnever := hall (catchAllFirst (some 16)) _ rfl hpatterns rfl (by decide) [] _ _
    ⟨rfl, rfl, List.cons_ne_nil _ _⟩
  exact hnever [0x53, 0x53, 0x48, 0x2d] _ List.mem_cons_self rfl

end Settings

end Switchboard
